import FoodOrdering.Proofs.Settings.Fields

/-!
# Where each field comes from

A document states some of the fields, each in one entry, and the others have their usual values;
then the environment replaces some of them.  Main statement: what is loaded is determined field by
field, and a variable decides on its own field only.
-/

namespace FoodOrdering

namespace Settings

namespace Field

/-! ## The document -/

/-- The table of a document that holds a field. -/
def part : Field → String
  | .serverHost | .serverNumber => "server"
  | .gatewayHost | .gatewayNumber | .timeout | .routes => "gateway"
  | .secret | .lifetime => "auth"
  | .zone | .peers => "trust"
  | .topic | .capacity => "broker"
  | .level | .colored | .logFile | .logDirectory => "logging"

/-- The place of a field where its table is a list. -/
def position : Field → Nat
  | .serverHost | .gatewayHost | .secret | .zone | .topic | .level => 0
  | .serverNumber | .gatewayNumber | .lifetime | .peers | .capacity | .colored => 1
  | .timeout | .logFile => 2
  | .routes | .logDirectory => 3

def key : Field → String
  | .serverHost | .gatewayHost => "host"
  | .serverNumber | .gatewayNumber => "port"
  | .timeout => "upstream_timeout_secs"
  | .routes => "routes"
  | .secret => "jwt_secret"
  | .lifetime => "token_lifetime"
  | .zone => "zone"
  | .peers => "trusted_peers"
  | .topic => "order_topic"
  | .capacity => "channel_capacity"
  | .level => "level"
  | .colored => "colored"
  | .logFile => "file"
  | .logDirectory => "dir"

/-- The value that an entry states. -/
def ofToml? : (field : Field) → Toml → Option field.Value
  | .serverHost | .gatewayHost | .lifetime | .topic | .logDirectory => Toml.text?
  | .serverNumber | .gatewayNumber => Toml.uint16?
  | .timeout | .capacity => Toml.uint64?
  | .routes => Toml.list? Route.ofToml?
  | .secret | .logFile => fun value => value.text?.map some
  | .zone => TrustKind.ofToml?
  | .peers => Toml.list? Toml.text?
  | .level => fun value => some (.ofToml value)
  | .colored => Toml.bool?

/-- The entry of a document for a field. -/
def entry? (field : Field) (entries : List (String × Toml)) : Option Toml := do
  let part ← Toml.lookup entries field.part
  (← part.entries?) field.position field.key

/-- The field has the value that the document states, or the usual one where it states none. -/
def IsStated (field : Field) (entries : List (String × Toml)) (value : field.Value) : Prop :=
  (field.entry? entries = none ∧ value = field.get {}) ∨
    ∃ stated, field.entry? entries = some stated ∧ field.ofToml? stated = some value

variable {entries : List (String × Toml)}

/-- What a part says about one of its fields, the document says. -/
theorem isStated_of_part {α : Type} {readPart : Toml → Option α} {usual part : α}
    {states : (Nat → String → Option Toml) → Prop} (field : Field) (get : α → field.Value)
    (husual : get usual = field.get {})
    (h : Toml.orUsual readPart usual (Toml.lookup entries field.part) = some part)
    (hpart : ∀ value, readPart value = some part →
      ∃ entry, value.entries? = some entry ∧ states entry)
    (hstates : ∀ entry, states entry →
      Toml.orUsual field.ofToml? (field.get {}) (entry field.position field.key) =
        some (get part)) :
    field.IsStated entries (get part) := by
  unfold IsStated entry?
  cases hlookup : Toml.lookup entries field.part with
  | none =>
      rw [hlookup] at h
      cases h
      exact Or.inl ⟨rfl, husual⟩
  | some value =>
      rw [hlookup] at h
      obtain ⟨entry, hentries, hentry⟩ := hpart value h
      have hfield := hstates entry hentry
      rw [Option.bind_eq_bind, Option.bind_some, Option.bind_eq_bind, hentries, Option.bind_some]
      cases hstated : entry field.position field.key with
      | none =>
          rw [hstated] at hfield
          exact Or.inl ⟨rfl, (Option.some.inj hfield).symm⟩
      | some stated =>
          rw [hstated] at hfield
          exact Or.inr ⟨stated, rfl, hfield⟩

end Field

/-! ### Parts -/

open Toml

section Parts

variable {value : Toml}

theorem Server.of_ofToml? {server : Server} (h : ofToml? value = some server) :
    ∃ entry, value.entries? = some entry ∧
      orUsual text? (Field.serverHost.get {}) (entry 0 "host") = some server.host ∧
      orUsual uint16? (Field.serverNumber.get {}) (entry 1 "port") = some server.number := by
  obtain ⟨entry, hentry, h⟩ := Option.bind_eq_some_iff.1 h
  obtain ⟨host, hhost, h⟩ := Option.bind_eq_some_iff.1 h
  obtain ⟨number, hnumber, h⟩ := Option.bind_eq_some_iff.1 h
  cases h
  exact ⟨entry, hentry, hhost, hnumber⟩

theorem Gateway.of_ofToml? {gateway : Gateway} (h : ofToml? value = some gateway) :
    ∃ entry, value.entries? = some entry ∧
      orUsual text? (Field.gatewayHost.get {}) (entry 0 "host") = some gateway.host ∧
      orUsual uint16? (Field.gatewayNumber.get {}) (entry 1 "port") = some gateway.number ∧
      orUsual uint64? (Field.timeout.get {}) (entry 2 "upstream_timeout_secs") =
        some gateway.timeout ∧
      orUsual (list? Route.ofToml?) (Field.routes.get {}) (entry 3 "routes") =
        some gateway.routes := by
  obtain ⟨entry, hentry, h⟩ := Option.bind_eq_some_iff.1 h
  obtain ⟨host, hhost, h⟩ := Option.bind_eq_some_iff.1 h
  obtain ⟨number, hnumber, h⟩ := Option.bind_eq_some_iff.1 h
  obtain ⟨timeout, htimeout, h⟩ := Option.bind_eq_some_iff.1 h
  obtain ⟨routes, hroutes, h⟩ := Option.bind_eq_some_iff.1 h
  cases h
  exact ⟨entry, hentry, hhost, hnumber, htimeout, hroutes⟩

theorem Auth.of_ofToml? {auth : Auth} (h : ofToml? value = some auth) :
    ∃ entry, value.entries? = some entry ∧
      orUsual (fun value => (text? value).map some) (Field.secret.get {}) (entry 0 "jwt_secret") =
        some auth.secret ∧
      orUsual text? (Field.lifetime.get {}) (entry 1 "token_lifetime") = some auth.lifetime := by
  obtain ⟨entry, hentry, h⟩ := Option.bind_eq_some_iff.1 h
  obtain ⟨secret, hsecret, h⟩ := Option.bind_eq_some_iff.1 h
  obtain ⟨lifetime, hlifetime, h⟩ := Option.bind_eq_some_iff.1 h
  cases h
  exact ⟨entry, hentry, hsecret, hlifetime⟩

theorem Trust.of_ofToml? {trust : Trust} (h : ofToml? value = some trust) :
    ∃ entry, value.entries? = some entry ∧
      orUsual TrustKind.ofToml? (Field.zone.get {}) (entry 0 "zone") = some trust.kind ∧
      orUsual (list? text?) (Field.peers.get {}) (entry 1 "trusted_peers") = some trust.peers := by
  obtain ⟨entry, hentry, h⟩ := Option.bind_eq_some_iff.1 h
  obtain ⟨kind, hkind, h⟩ := Option.bind_eq_some_iff.1 h
  obtain ⟨peers, hpeers, h⟩ := Option.bind_eq_some_iff.1 h
  cases h
  exact ⟨entry, hentry, hkind, hpeers⟩

theorem Broker.of_ofToml? {broker : Broker} (h : ofToml? value = some broker) :
    ∃ entry, value.entries? = some entry ∧
      orUsual text? (Field.topic.get {}) (entry 0 "order_topic") = some broker.topic ∧
      orUsual uint64? (Field.capacity.get {}) (entry 1 "channel_capacity") =
        some broker.capacity := by
  obtain ⟨entry, hentry, h⟩ := Option.bind_eq_some_iff.1 h
  obtain ⟨topic, htopic, h⟩ := Option.bind_eq_some_iff.1 h
  obtain ⟨capacity, hcapacity, h⟩ := Option.bind_eq_some_iff.1 h
  cases h
  exact ⟨entry, hentry, htopic, hcapacity⟩

theorem Logging.of_ofToml? {logging : Logging} (h : ofToml? value = some logging) :
    ∃ entry, value.entries? = some entry ∧
      orUsual (fun value => some (.ofToml value)) (Field.level.get {}) (entry 0 "level") =
        some logging.level ∧
      orUsual bool? (Field.colored.get {}) (entry 1 "colored") = some logging.colored ∧
      orUsual (fun value => (text? value).map some) (Field.logFile.get {}) (entry 2 "file") =
        some logging.file ∧
      orUsual text? (Field.logDirectory.get {}) (entry 3 "dir") = some logging.directory := by
  obtain ⟨entry, hentry, h⟩ := Option.bind_eq_some_iff.1 h
  obtain ⟨level, hlevel, h⟩ := Option.bind_eq_some_iff.1 h
  obtain ⟨colored, hcolored, h⟩ := Option.bind_eq_some_iff.1 h
  obtain ⟨file, hfile, h⟩ := Option.bind_eq_some_iff.1 h
  obtain ⟨directory, hdirectory, h⟩ := Option.bind_eq_some_iff.1 h
  cases h
  exact ⟨entry, hentry, hlevel, hcolored, hfile, hdirectory⟩

end Parts

/-- Every field of settings that a document states has the value that is stated there, or the usual
one. -/
theorem isStated_of_ofEntries? {entries : List (String × Toml)} {base : Settings}
    (h : ofEntries? entries = some base) (field : Field) :
    field.IsStated entries (field.get base) := by
  unfold ofEntries? at h
  split at h
  next => cases h
  next =>
    obtain ⟨server, hserver, h⟩ := Option.bind_eq_some_iff.1 h
    obtain ⟨gateway, hgateway, h⟩ := Option.bind_eq_some_iff.1 h
    obtain ⟨auth, hauth, h⟩ := Option.bind_eq_some_iff.1 h
    obtain ⟨trust, htrust, h⟩ := Option.bind_eq_some_iff.1 h
    obtain ⟨broker, hbroker, h⟩ := Option.bind_eq_some_iff.1 h
    obtain ⟨logging, hlogging, h⟩ := Option.bind_eq_some_iff.1 h
    cases h
    cases field with
    | serverHost =>
        exact Field.isStated_of_part .serverHost Server.host rfl hserver
          (fun _ => Server.of_ofToml?) fun _ h => h.1
    | serverNumber =>
        exact Field.isStated_of_part .serverNumber Server.number rfl hserver
          (fun _ => Server.of_ofToml?) fun _ h => h.2
    | gatewayHost =>
        exact Field.isStated_of_part .gatewayHost Gateway.host rfl hgateway
          (fun _ => Gateway.of_ofToml?) fun _ h => h.1
    | gatewayNumber =>
        exact Field.isStated_of_part .gatewayNumber Gateway.number rfl hgateway
          (fun _ => Gateway.of_ofToml?) fun _ h => h.2.1
    | timeout =>
        exact Field.isStated_of_part .timeout Gateway.timeout rfl hgateway
          (fun _ => Gateway.of_ofToml?) fun _ h => h.2.2.1
    | routes =>
        exact Field.isStated_of_part .routes Gateway.routes rfl hgateway
          (fun _ => Gateway.of_ofToml?) fun _ h => h.2.2.2
    | secret =>
        exact Field.isStated_of_part .secret Auth.secret rfl hauth
          (fun _ => Auth.of_ofToml?) fun _ h => h.1
    | lifetime =>
        exact Field.isStated_of_part .lifetime Auth.lifetime rfl hauth
          (fun _ => Auth.of_ofToml?) fun _ h => h.2
    | zone =>
        exact Field.isStated_of_part .zone Trust.kind rfl htrust
          (fun _ => Trust.of_ofToml?) fun _ h => h.1
    | peers =>
        exact Field.isStated_of_part .peers Trust.peers rfl htrust
          (fun _ => Trust.of_ofToml?) fun _ h => h.2
    | topic =>
        exact Field.isStated_of_part .topic Broker.topic rfl hbroker
          (fun _ => Broker.of_ofToml?) fun _ h => h.1
    | capacity =>
        exact Field.isStated_of_part .capacity Broker.capacity rfl hbroker
          (fun _ => Broker.of_ofToml?) fun _ h => h.2
    | level =>
        exact Field.isStated_of_part .level Logging.level rfl hlogging
          (fun _ => Logging.of_ofToml?) fun _ h => h.1
    | colored =>
        exact Field.isStated_of_part .colored Logging.colored rfl hlogging
          (fun _ => Logging.of_ofToml?) fun _ h => h.2.1
    | logFile =>
        exact Field.isStated_of_part .logFile Logging.file rfl hlogging
          (fun _ => Logging.of_ofToml?) fun _ h => h.2.2.1
    | logDirectory =>
        exact Field.isStated_of_part .logDirectory Logging.directory rfl hlogging
          (fun _ => Logging.of_ofToml?) fun _ h => h.2.2.2

/-! ## Loading -/

/-- The settings are the usual ones where there is no file, or else those that its text states. -/
def IsFrom (base : Settings) (files : FileTree) (path : String) : Prop :=
  (files.isPresent path = false ∧ ∀ field : Field, field.get base = field.get {}) ∨
    ∃ text entries, files.isPresent path = true ∧ files.content? path = some (Text.utf8 text) ∧
      Toml.parse text = some entries ∧ ∀ field : Field, field.IsStated entries (field.get base)

theorem isFrom_of_ofFile {files : FileTree} {path : String} {base : Settings}
    (h : ofFile files path = .ok base) : base.IsFrom files path := by
  unfold ofFile at h
  split at h
  next hpresent =>
    split at h
    next => cases h
    next bytes hbytes =>
      unfold ofBytes at h
      split at h
      next => cases h
      next text htext =>
        split at h
        next => cases h
        next settings hsettings =>
          cases h
          obtain ⟨entries, hentries, hbase⟩ := Option.bind_eq_some_iff.1 hsettings
          rw [← Text.utf8_of_ofUtf8? htext] at hbytes
          exact Or.inr ⟨text, entries, hpresent, hbytes, hentries, isStated_of_ofEntries? hbase⟩
  next habsent =>
    cases h
    exact Or.inl ⟨Bool.eq_false_iff.2 habsent, fun field => rfl⟩

variable {files : FileTree} {environment : Environment} {workingDirectory : String}
  {base : Settings}

theorem load_eq_ok (hplace : files.isPresent (directory environment workingDirectory) = true ∨
      files.hasRoom (directory environment workingDirectory) = true)
    (hbase : ofFile files (Path.join (directory environment workingDirectory) "config.toml") =
      .ok base) :
    load files environment workingDirectory = .ok (base.overlaid environment) := by
  unfold load
  dsimp only
  rw [if_neg, hbase]
  · rfl
  · rcases hplace with hpresent | hroom
    · simp [hpresent]
    · simp [hroom]

theorem directory_congr {changed : Environment}
    (h : changed "BB_CONFIG_DIR" = environment "BB_CONFIG_DIR") (workingDirectory : String) :
    directory changed workingDirectory = directory environment workingDirectory := by
  unfold directory Environment.text?
  rw [h]

/-- What is loaded where the configuration directory is there or can be made, and its document is
one of settings or is not there.  Every field has what the document states, or its usual value; the
settings are those in which every field has become what its variable says; and another value of one
of the variables changes no other field. -/
theorem environment_overlays_each_field (files : FileTree) (environment : Environment)
    (workingDirectory : String) {base : Settings}
    (hplace : files.isPresent (directory environment workingDirectory) = true ∨
      files.hasRoom (directory environment workingDirectory) = true)
    (hbase : ofFile files (Path.join (directory environment workingDirectory) "config.toml") =
      .ok base) :
    base.IsFrom files (Path.join (directory environment workingDirectory) "config.toml") ∧
    ∃ settings, load files environment workingDirectory = .ok settings ∧
      (∀ other : Settings, other = settings ↔
        ∀ field : Field, field.Becomes environment (field.get base) (field.get other)) ∧
      ∀ (field : Field) name changed, field.override? = some name →
        (∀ other, other ≠ name → changed other = environment other) →
          ∃ later, load files changed workingDirectory = .ok later ∧
            ∀ other : Field, other ≠ field → other.get later = other.get settings := by
  refine ⟨isFrom_of_ofFile hbase, base.overlaid environment, load_eq_ok hplace hbase, ?_, ?_⟩
  · intro other
    constructor
    · rintro rfl field
      exact Field.becomes_iff.2 (field.get_overlaid environment base)
    · intro h
      refine Field.ext fun field => ?_
      rw [Field.becomes_iff.1 (h field), Field.get_overlaid]
  · intro field name changed hname hsame
    have hdirectory : directory changed workingDirectory =
        directory environment workingDirectory := by
      refine directory_congr (hsame _ ?_) workingDirectory
      rintro rfl
      exact field.override?_ne_directory hname
    rw [← hdirectory] at hplace hbase
    refine ⟨base.overlaid changed, load_eq_ok hplace hbase, fun other hne => ?_⟩
    rw [Field.get_overlaid, Field.get_overlaid]
    refine Field.overlay_congr _ fun variableName hother => hsame variableName ?_
    rintro rfl
    exact hne (Field.eq_of_override? hother hname)

/-- A document states a number, of which a variable makes nothing, and another variable says how
much is logged. -/
theorem environment_overlays_level :
    let files : FileTree :=
      .ofEntries [(["srv", "config.toml"], Text.utf8 "[server]\nport = 9000\n")] [["srv"]]
    let environment : Environment := fun name =>
      if name = "BB_CONFIG_DIR" then some (Text.utf8 "/srv")
      else if name = "BB_SERVER_PORT" then some (Text.utf8 "65536")
      else if name = "BB_LOG_LEVEL" then some (Text.utf8 "Debug")
      else none
    let base : Settings := { server := { number := 9000 } }
    files.isPresent (directory environment "/") = true ∧
      ofFile files (Path.join (directory environment "/") "config.toml") = .ok base ∧
      ∃ settings, load files environment "/" = .ok settings ∧
        settings = { base with logging := { level := .upTo .debug } } ∧
        ∀ field : Field, field.Becomes environment (field.get base) (field.get settings) := by
  intro files environment base
  have hplace : files.isPresent (directory environment "/") = true := by decide +kernel
  have hbase : ofFile files (Path.join (directory environment "/") "config.toml") = .ok base := by
    decide +kernel
  obtain ⟨-, settings, hload, hfields, -⟩ :=
    environment_overlays_each_field files environment "/" (Or.inl hplace) hbase
  have hsettings : load files environment "/" =
      .ok { base with logging := { level := .upTo .debug } } := by decide +kernel
  exact ⟨hplace, hbase, settings, hload, Except.ok.inj (hload.symm.trans hsettings),
    (hfields settings).1 rfl⟩

end Settings

end FoodOrdering
