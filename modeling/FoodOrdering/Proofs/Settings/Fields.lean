import FoodOrdering.Settings.Load
import FoodOrdering.Proofs.Text.Decimal
import FoodOrdering.Proofs.Text.Utf8

/-!
# The fields of settings and their variables

Settings are their fields, and the environment has one variable at most for a field.  A variable
replaces its field by what its text denotes, in the notation of the field; a text that denotes
nothing leaves the field as it was.
-/

namespace FoodOrdering

/-! ## What a text denotes -/

namespace LogLevel

def all : List LogLevel :=
  .off :: Severity.all.map .upTo

theorem mem_all (level : LogLevel) : level ∈ all := by
  cases level with
  | off => exact List.mem_cons_self
  | upTo severity => cases severity <;> decide

def smallName : LogLevel → String
  | .off => "off"
  | .upTo .error => "error"
  | .upTo .warn => "warn"
  | .upTo .info => "info"
  | .upTo .debug => "debug"
  | .upTo .trace => "trace"

theorem smallName_injective {first second : LogLevel} (h : first.smallName = second.smallName) :
    first = second := by
  have hall : ∀ first ∈ all, ∀ second ∈ all, first.smallName = second.smallName →
      first = second := by decide
  exact hall first (mem_all first) second (mem_all second) h

/-- A text names a level in any letter case; a text that names none stands for information. -/
def IsNamedBy (level : LogLevel) (text : String) : Prop :=
  Text.lowercase text = level.smallName ∨
    level = .upTo .info ∧ ∀ other : LogLevel, Text.lowercase text ≠ other.smallName

theorem isNamedBy_lenient (text : String) : (lenient text).IsNamedBy text := by
  unfold lenient
  dsimp only
  split
  next hname => exact Or.inl hname
  next hoff =>
    split
    next hname => exact Or.inl hname
    next herror =>
      split
      next hname => exact Or.inl hname
      next hwarn =>
        split
        next hname => exact Or.inl hname
        next hdebug =>
          split
          next hname => exact Or.inl hname
          next htrace =>
            by_cases hname : Text.lowercase text = "info"
            · exact Or.inl hname
            · refine Or.inr ⟨rfl, fun other => ?_⟩
              cases other with
              | off => exact hoff
              | upTo severity =>
                  cases severity
                  exacts [herror, hwarn, hname, hdebug, htrace]

theorem IsNamedBy.eq {first second : LogLevel} {text : String} (hfirst : first.IsNamedBy text)
    (hsecond : second.IsNamedBy text) : first = second := by
  rcases hfirst with hname | ⟨rfl, hnone⟩
  · rcases hsecond with hother | ⟨-, hnone⟩
    · exact smallName_injective (hname.symm.trans hother)
    · exact absurd hname (hnone first)
  · rcases hsecond with hother | ⟨rfl, -⟩
    · exact absurd hother (hnone second)
    · rfl

theorem lenient_eq_iff {text : String} {level : LogLevel} :
    lenient text = level ↔ level.IsNamedBy text :=
  ⟨fun h => h ▸ isNamedBy_lenient text, fun h => (isNamedBy_lenient text).eq h⟩

end LogLevel

theorem TrustKind.ofName?_eq_some_iff {text : String} {kind : TrustKind} :
    ofName? text = some kind ↔ text = kind.name := by
  unfold ofName?
  constructor
  · intro h
    split at h
    next hname =>
      cases h
      exact hname
    next =>
      split at h
      next hname =>
        cases h
        exact hname
      next =>
        split at h
        next hname =>
          cases h
          exact hname
        next => cases h
  · rintro rfl
    cases kind <;> rfl

theorem TrustKind.parse_eq_ok_iff {text : String} {kind : TrustKind} :
    (parse text).toOption = some kind ↔ Text.lowercase (Text.trim text) = kind.name := by
  rw [← ofName?_eq_some_iff]
  unfold parse
  dsimp only
  cases ofName? (Text.lowercase (Text.trim text)) with
  | none => exact iff_of_false nofun nofun
  | some found => exact Iff.rfl

namespace Settings

open Text

theorem readUInt16?_eq_some_iff {text : String} {number : UInt16} :
    readUInt16? text = some number ↔ IsNumeral text number.toNat := by
  unfold readUInt16?
  rw [Option.map_eq_some_iff]
  constructor
  · rintro ⟨value, hvalue, rfl⟩
    obtain ⟨hnumeral, hbound⟩ := readBelow?_eq_some_iff.1 hvalue
    rw [UInt16.toNat_ofNat_of_lt' hbound]
    exact hnumeral
  · exact fun h => ⟨number.toNat, readBelow?_eq_some_iff.2 ⟨h, number.toNat_lt⟩, UInt16.ofNat_toNat⟩

theorem readUInt64?_eq_some_iff {text : String} {number : UInt64} :
    readUInt64? text = some number ↔ IsNumeral text number.toNat := by
  unfold readUInt64?
  rw [Option.map_eq_some_iff]
  constructor
  · rintro ⟨value, hvalue, rfl⟩
    obtain ⟨hnumeral, hbound⟩ := readBelow?_eq_some_iff.1 hvalue
    rw [UInt64.toNat_ofNat_of_lt' hbound]
    exact hnumeral
  · exact fun h => ⟨number.toNat, readBelow?_eq_some_iff.2 ⟨h, number.toNat_lt⟩, UInt64.ofNat_toNat⟩

theorem readSwitch_eq_iff {text : String} {value : Bool} :
    readSwitch text = value ↔ (value = true ↔ text = "true" ∨ text = "1") := by
  unfold readSwitch
  rw [Bool.eq_iff_iff, Bool.or_eq_true, decide_eq_true_eq, decide_eq_true_eq]
  exact Iff.comm

theorem commaList_eq_iff {text : String} {pieces : List String} :
    commaList text = pieces ↔
      pieces.map String.toList =
        ((segments ',' text.toList).map trimChars).filter fun piece => !piece.isEmpty := by
  unfold commaList
  constructor
  · rintro rfl
    rw [List.map_map]
    exact (List.map_congr_left fun piece _ => String.toList_ofList).trans (List.map_id _)
  · intro h
    rw [← h, List.map_map]
    exact (List.map_congr_left fun piece _ => String.ofList_toList).trans (List.map_id _)

end Settings

namespace Environment

variable {environment : Environment} {name : String} {α : Type} {read : String → Option α}

theorem text?_eq_some_iff {text : String} :
    environment.text? name = some text ↔ environment name = some (Text.utf8 text) := by
  unfold text?
  rw [Option.bind_eq_some_iff]
  constructor
  · rintro ⟨bytes, hbytes, htext⟩
    rw [hbytes, Text.utf8_of_ofUtf8? htext]
  · exact fun h => ⟨_, h, Text.ofUtf8?_utf8 text⟩

theorem replace_of_some {text : String} {value : α} (old : α)
    (hset : environment name = some (Text.utf8 text)) (hread : read text = some value) :
    environment.replace name read old = value := by
  rw [replace, text?_eq_some_iff.2 hset, Option.bind_some, hread]
  rfl

theorem replace_of_none (old : α)
    (h : ∀ text, environment name = some (Text.utf8 text) → read text = none) :
    environment.replace name read old = old := by
  have hnone : (environment.text? name).bind read = none :=
    Option.bind_eq_none_iff.2 fun text htext => h text (text?_eq_some_iff.1 htext)
  rw [replace, hnone]
  rfl

end Environment

namespace Settings

/-! ## Fields -/

attribute [ext] Server Gateway Auth Trust Broker Logging Settings

inductive Field where
  | serverHost
  | serverNumber
  | gatewayHost
  | gatewayNumber
  | timeout
  | routes
  | secret
  | lifetime
  | zone
  | peers
  | topic
  | capacity
  | level
  | colored
  | logFile
  | logDirectory
  deriving DecidableEq, Repr

namespace Field

def Value : Field → Type
  | .serverHost | .gatewayHost | .lifetime | .topic | .logDirectory => String
  | .serverNumber | .gatewayNumber => UInt16
  | .timeout | .capacity => UInt64
  | .routes => List Route
  | .secret | .logFile => Option String
  | .zone => TrustKind
  | .peers => List String
  | .level => LogLevel
  | .colored => Bool

def get : (field : Field) → Settings → field.Value
  | .serverHost, settings => settings.server.host
  | .serverNumber, settings => settings.server.number
  | .gatewayHost, settings => settings.gateway.host
  | .gatewayNumber, settings => settings.gateway.number
  | .timeout, settings => settings.gateway.timeout
  | .routes, settings => settings.gateway.routes
  | .secret, settings => settings.auth.secret
  | .lifetime, settings => settings.auth.lifetime
  | .zone, settings => settings.trust.kind
  | .peers, settings => settings.trust.peers
  | .topic, settings => settings.broker.topic
  | .capacity, settings => settings.broker.capacity
  | .level, settings => settings.logging.level
  | .colored, settings => settings.logging.colored
  | .logFile, settings => settings.logging.file
  | .logDirectory, settings => settings.logging.directory

/-- Settings are their fields. -/
theorem ext {first second : Settings} (h : ∀ field : Field, field.get first = field.get second) :
    first = second :=
  Settings.ext (Server.ext (h .serverHost) (h .serverNumber))
    (Gateway.ext (h .gatewayHost) (h .gatewayNumber) (h .timeout) (h .routes))
    (Auth.ext (h .secret) (h .lifetime)) (Trust.ext (h .zone) (h .peers))
    (Broker.ext (h .topic) (h .capacity))
    (Logging.ext (h .level) (h .colored) (h .logFile) (h .logDirectory))

/-! ## The environment -/

/-- The variable that replaces a field. -/
def override? : Field → Option String
  | .serverHost => some "BB_SERVER_HOST"
  | .serverNumber => some "BB_SERVER_PORT"
  | .gatewayHost => some "BB_GATEWAY_HOST"
  | .gatewayNumber => some "BB_GATEWAY_PORT"
  | .timeout => some "BB_GATEWAY_UPSTREAM_TIMEOUT_SECS"
  | .secret => some "BB_AUTH_JWT_SECRET"
  | .lifetime => some "BB_AUTH_TOKEN_LIFETIME"
  | .zone => some "BB_TRUST_ZONE"
  | .peers => some "BB_TRUST_PEERS"
  | .topic => some "BB_BROKER_ORDER_TOPIC"
  | .capacity => some "BB_BROKER_CHANNEL_CAPACITY"
  | .level => some "BB_LOG_LEVEL"
  | .colored => some "BB_LOG_COLORED"
  | .logFile => some "BB_LOG_FILE"
  | .routes | .logDirectory => none

/-- The value that the text of a variable denotes. -/
def Denotes : (field : Field) → String → field.Value → Prop
  | .serverHost, text, value => value = text
  | .serverNumber, text, value => Text.IsNumeral text value.toNat
  | .gatewayHost, text, value => value = text
  | .gatewayNumber, text, value => Text.IsNumeral text value.toNat
  | .timeout, text, value => Text.IsNumeral text value.toNat
  | .secret, text, value => value = some text
  | .lifetime, text, value => value = text
  | .zone, text, value => Text.lowercase (Text.trim text) = value.name
  | .peers, text, value => value.map String.toList =
      ((Text.segments ',' text.toList).map Text.trimChars).filter fun piece => !piece.isEmpty
  | .topic, text, value => value = text
  | .capacity, text, value => Text.IsNumeral text value.toNat
  | .level, text, value => value.IsNamedBy text
  | .colored, text, value => value = true ↔ text = "true" ∨ text = "1"
  | .logFile, text, value => value = some text
  | .routes, _, _ | .logDirectory, _, _ => False

/-- What becomes of a field: it is replaced by what its variable denotes, and where that is not set,
is no text or denotes nothing, the field is left as it was. -/
def Becomes (field : Field) (environment : Environment) (old new : field.Value) : Prop :=
  (∃ name text, field.override? = some name ∧ environment name = some (Text.utf8 text) ∧
      field.Denotes text new) ∨
    (∀ name text value, field.override? = some name → environment name = some (Text.utf8 text) →
      ¬ field.Denotes text value) ∧ new = old

/-- How the text of a variable is read. -/
def read : (field : Field) → String → Option field.Value
  | .serverHost | .gatewayHost | .lifetime | .topic => some
  | .serverNumber | .gatewayNumber => readUInt16?
  | .timeout | .capacity => readUInt64?
  | .secret | .logFile => fun text => some (some text)
  | .zone => fun text => (TrustKind.parse text).toOption
  | .peers => fun text => some (Text.commaList text)
  | .level => fun text => some (.lenient text)
  | .colored => fun text => some (readSwitch text)
  | .routes | .logDirectory => fun _ => none

def overlay (field : Field) (environment : Environment) (old : field.Value) : field.Value :=
  match field.override? with
  | some name => environment.replace name field.read old
  | none => old

theorem get_overlaid (field : Field) (environment : Environment) (settings : Settings) :
    field.get (settings.overlaid environment) = field.overlay environment (field.get settings) := by
  cases field <;> rfl

theorem read_eq_some_iff (field : Field) {text : String} {value : field.Value} :
    field.read text = some value ↔ field.Denotes text value := by
  cases field with
  | serverHost | gatewayHost | lifetime | topic | secret | logFile =>
      exact Option.some_inj.trans eq_comm
  | serverNumber | gatewayNumber => exact readUInt16?_eq_some_iff
  | timeout | capacity => exact readUInt64?_eq_some_iff
  | zone => exact @TrustKind.parse_eq_ok_iff text value
  | peers => exact Option.some_inj.trans commaList_eq_iff
  | level => exact Option.some_inj.trans LogLevel.lenient_eq_iff
  | colored => exact Option.some_inj.trans readSwitch_eq_iff
  | routes | logDirectory => exact iff_of_false nofun id

variable {field : Field} {environment : Environment}

theorem overlay_of_denotes {name text : String} {value : field.Value} (old : field.Value)
    (hname : field.override? = some name) (hset : environment name = some (Text.utf8 text))
    (hdenotes : field.Denotes text value) : field.overlay environment old = value := by
  rw [overlay, hname]
  exact Environment.replace_of_some old hset (field.read_eq_some_iff.2 hdenotes)

theorem overlay_of_not_denotes (old : field.Value)
    (h : ∀ name text value, field.override? = some name → environment name = some (Text.utf8 text) →
      ¬ field.Denotes text value) : field.overlay environment old = old := by
  unfold overlay
  split
  next name hname =>
    refine Environment.replace_of_none old fun text hset => ?_
    refine Option.eq_none_iff_forall_ne_some.2 fun value hread => ?_
    exact h name text value hname hset (field.read_eq_some_iff.1 hread)
  next => rfl

/-- There is exactly one value that a field may become. -/
theorem becomes_iff {old new : field.Value} :
    field.Becomes environment old new ↔ new = field.overlay environment old := by
  constructor
  · rintro (⟨name, text, hname, hset, hdenotes⟩ | ⟨hnone, rfl⟩)
    · exact (overlay_of_denotes old hname hset hdenotes).symm
    · exact (overlay_of_not_denotes new hnone).symm
  · rintro rfl
    by_cases hdenoted : ∃ name text value, field.override? = some name ∧
        environment name = some (Text.utf8 text) ∧ field.Denotes text value
    · obtain ⟨name, text, value, hname, hset, hdenotes⟩ := hdenoted
      rw [overlay_of_denotes old hname hset hdenotes]
      exact Or.inl ⟨name, text, hname, hset, hdenotes⟩
    · have hnone : ∀ name text value, field.override? = some name →
          environment name = some (Text.utf8 text) → ¬ field.Denotes text value :=
        fun name text value hname hset hdenotes =>
          hdenoted ⟨name, text, value, hname, hset, hdenotes⟩
      exact Or.inr ⟨hnone, overlay_of_not_denotes old hnone⟩

/-- A field depends on its own variable only. -/
theorem overlay_congr {changed : Environment} (old : field.Value)
    (h : ∀ name, field.override? = some name → changed name = environment name) :
    field.overlay changed old = field.overlay environment old := by
  unfold overlay
  split
  next name hname =>
    unfold Environment.replace Environment.text?
    rw [h name hname]
  next => rfl

def all : List Field :=
  [.serverHost, .serverNumber, .gatewayHost, .gatewayNumber, .timeout, .routes, .secret, .lifetime,
    .zone, .peers, .topic, .capacity, .level, .colored, .logFile, .logDirectory]

theorem mem_all (field : Field) : field ∈ all := by
  cases field <;> decide

/-- No two fields have one variable. -/
theorem eq_of_override? {first second : Field} {name : String}
    (hfirst : first.override? = some name) (hsecond : second.override? = some name) :
    first = second := by
  have hall : ∀ first ∈ all, ∀ second ∈ all, first.override?.isSome →
      first.override? = second.override? → first = second := by decide +kernel
  exact hall first (mem_all first) second (mem_all second) (by rw [hfirst]; rfl)
    (hfirst.trans hsecond.symm)

theorem override?_ne_directory (field : Field) : field.override? ≠ some "BB_CONFIG_DIR" := by
  have hall : ∀ field ∈ all, field.override? ≠ some "BB_CONFIG_DIR" := by decide +kernel
  exact hall field (mem_all field)

end Field

end Settings

end FoodOrdering
