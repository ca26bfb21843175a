import FoodOrdering.Gateway.Proxy
import FoodOrdering.Http.Headers
import FoodOrdering.Text.Case
import FoodOrdering.Text.Segments

/-!
# Headers of one connection

A header describes the connection that it came on if it has one of eight names, or if a Connection
header of the same message lists it.  What is handed on is decided by a fixed list of names, both
ways: under any other name all its values, in their order, and nothing under these.  The list has
seven of the eight names, and takes no notice of what a Connection header says.
-/

namespace FoodOrdering

namespace Http.Headers

/-- The names that describe a connection in every message. -/
def hopNames : List String :=
  ["connection", "keep-alive", "proxy-authenticate", "proxy-authorization", "te", "trailer",
    "transfer-encoding", "upgrade"]

/-- The names that Connection headers list, in small letters. -/
def connectionOptions (headers : Headers) : List String :=
  (headers.getAll "connection").flatMap fun value =>
    match textOf? value with
    | none => []
    | some text => (Text.commaList text).map Text.lowerAscii

/-- What stands under this name describes the connection that the headers came on. -/
def DescribesConnection (headers : Headers) (name : String) : Prop :=
  name ∈ hopNames ∨ name ∈ headers.connectionOptions

instance (headers : Headers) (name : String) : Decidable (headers.DescribesConnection name) :=
  inferInstanceAs (Decidable (_ ∨ _))

end Http.Headers

namespace Gateway

/-- What is handed on of headers, name by name; names have no order that could be kept. -/
structure HandsOn (given handed : Http.Headers) : Prop where
  dropped : ∀ name ∈ connectionHeaders, handed.getAll name = []
  kept : ∀ name, name ∉ connectionHeaders → handed.getAll name = given.getAll name
  /-- Nothing else that describes the connection is handed on. -/
  leaked : ∀ name, given.DescribesConnection name → handed.getAll name ≠ [] →
    name = "keep-alive" ∨ name ∈ given.connectionOptions ∧ name ∉ connectionHeaders

theorem handsOn_forwardable (headers : Http.Headers) : HandsOn headers (forwardable headers) where
  dropped _ hname := Http.Headers.getAll_removeAll_of_mem hname
  kept _ hname := Http.Headers.getAll_removeAll_of_notMem hname
  leaked := by
    intro name hdescribes hhanded
    have hunlisted : name ∉ connectionHeaders :=
      fun hlisted => hhanded (Http.Headers.getAll_removeAll_of_mem hlisted)
    rcases hdescribes with hhop | hoption
    · have hseven : ∀ hop ∈ Http.Headers.hopNames,
          hop = "keep-alive" ∨ hop ∈ connectionHeaders := by
        decide
      exact Or.inl ((hseven name hhop).resolve_right hunlisted)
    · exact Or.inr ⟨hoption, hunlisted⟩

/-- Whatever a service is sent and whatever a caller gets from it, the headers that it came with are
handed on by their names. -/
theorem headers_are_handed_on_by_name (client : Http.Client) (admission : Admission) :
    (∀ outgoing ∈ (forward client admission).sent,
      HandsOn admission.request.headers outgoing.headers) ∧
      ∀ response, (forward client admission).outcome = .ok response →
        ∃ outgoing reply, (forward client admission).sent = [outgoing] ∧
          client outgoing = .ok reply ∧ HandsOn reply.headers response.headers := by
  unfold forward
  dsimp only
  split
  · exact ⟨nofun, nofun⟩
  next route _ =>
    split
    · exact ⟨nofun, nofun⟩
    split
    next fault hfault =>
      refine ⟨?_, nofun⟩
      intro outgoing hsent
      obtain rfl := List.mem_singleton.1 hsent
      exact handsOn_forwardable _
    next reply hreply =>
      constructor
      · intro outgoing hsent
        obtain rfl := List.mem_singleton.1 hsent
        exact handsOn_forwardable _
      · rintro response hresponse
        cases hresponse
        exact ⟨_, reply, rfl, hreply, handsOn_forwardable _⟩

/-- A request for another protocol, with a name that occurs twice. -/
theorem upgrade_is_not_handed_on :
    let route : Route := ⟨"/api/orders", "http://orders:8081", true⟩
    let request : Http.Request :=
      { method := "GET", target := ⟨"/api/orders", none⟩
        headers := .ofList
          [("Accept", Text.utf8 "text/html"), ("Connection", Text.utf8 "Upgrade"),
            ("Upgrade", Text.utf8 "websocket"), ("Accept", Text.utf8 "*/*")]
        body := .empty, peer := none }
    let client : Http.Client := fun _ => .ok (.plainText 200 "served")
    ∃ outgoing ∈ (forward client ⟨request, some route⟩).sent,
      outgoing.headers.getAll "upgrade" = [] ∧
        outgoing.headers.getAll "accept" = [Text.utf8 "text/html", Text.utf8 "*/*"] := by
  intro route request client
  have hsent : outgoing route request ∈ (forward client ⟨request, some route⟩).sent :=
    List.mem_singleton_self _
  have hhanded := (headers_are_handed_on_by_name client ⟨request, some route⟩).1 _ hsent
  refine ⟨_, hsent, hhanded.dropped _ (by decide), ?_⟩
  exact (hhanded.kept _ (by decide)).trans (by decide +kernel)

/-- Both ways the headers of a connection are handed on: one that is not on the list, and one that
a Connection header lists. -/
theorem connection_headers_are_handed_on :
    let route : Route := ⟨"/api/orders", "http://orders:8081", true⟩
    let given : Http.Headers := .ofList
      [("Connection", Text.utf8 "X-Trace"), ("Keep-Alive", Text.utf8 "timeout=5"),
        ("X-Trace", Text.utf8 "on")]
    let request : Http.Request :=
      { method := "GET", target := ⟨"/api/orders", none⟩, headers := given, body := .empty
        peer := none }
    let client : Http.Client := fun _ => .ok { Http.Response.bare 200 with headers := given }
    given.DescribesConnection "keep-alive" ∧ given.DescribesConnection "x-trace" ∧
      ∃ outgoing response, (forward client ⟨request, some route⟩).sent = [outgoing] ∧
        (forward client ⟨request, some route⟩).outcome = .ok response ∧
        ∀ handed ∈ [outgoing.headers, response.headers],
          handed.getAll "keep-alive" = [Text.utf8 "timeout=5"] ∧
            handed.getAll "x-trace" = [Text.utf8 "on"] := by
  intro route given request client
  refine ⟨by decide, by decide +kernel, _, _, rfl, rfl, ?_⟩
  have hhanded : (forwardable given).getAll "keep-alive" = [Text.utf8 "timeout=5"] ∧
      (forwardable given).getAll "x-trace" = [Text.utf8 "on"] := by
    decide +kernel
  intro handed hmem
  rw [List.mem_cons, List.mem_singleton] at hmem
  rcases hmem with rfl | rfl
  · exact hhanded
  · exact hhanded

end Gateway

end FoodOrdering
