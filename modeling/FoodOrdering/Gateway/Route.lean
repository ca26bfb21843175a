import FoodOrdering.Text.Segments
import FoodOrdering.Text.Utf8

/-!
# Routes

The gateway hands requests on by the beginning of their paths.  A route takes the paths below its
prefix: the prefix itself, and what continues it behind a slash.
-/

namespace FoodOrdering

structure Route where
  /-- The beginning of the paths that the route takes. -/
  pathPrefix : String
  /-- The address of the service that gets the requests. -/
  service : String
  /-- Requests need a verified token. -/
  authenticated : Bool
  deriving DecidableEq, Repr

namespace Route

/-- What follows a beginning of a text. -/
def after? : List Char → List Char → Option (List Char)
  | [], text => some text
  | _ :: _, [] => none
  | c :: start, d :: text => if c = d then after? start text else none

/-- The route takes this path. -/
def isMatch (route : Route) (path : String) : Bool :=
  match after? route.pathPrefix.toList path.toList with
  | none => false
  | some rest =>
      rest.isEmpty || rest.head? == some '/' || route.pathPrefix.toList.getLast? == some '/'

/-- The length of the prefix in bytes. -/
def size (route : Route) : Nat :=
  route.pathPrefix.utf8ByteSize

/-- The address of a target at the service. -/
def address (route : Route) (target : String) : String :=
  String.ofList (Text.dropEnd (· == '/') route.service.toList) ++ target

theorem after?_eq_some_iff {start text rest : List Char} :
    after? start text = some rest ↔ text = start ++ rest := by
  induction start generalizing text with
  | nil => simp [after?, eq_comm]
  | cons c start ih =>
      cases text with
      | nil => simp [after?]
      | cons d text =>
          by_cases h : c = d
          · subst h
            simp [after?, ih]
          · simp only [after?, if_neg h, List.cons_append, List.cons.injEq, reduceCtorEq,
              false_iff, not_and]
            exact fun heq => absurd heq.symm h

end Route

/-!
## Tables

The routes stand in descending order of the length of their prefixes, those of one length in the
order in which they were given.  The first that takes a path is the one with the longest prefix.
-/

structure RouteTable where
  routes : List Route
  deriving DecidableEq, Repr

namespace RouteTable

def ofList (routes : List Route) : RouteTable :=
  ⟨routes.mergeSort fun first second => second.size ≤ first.size⟩

/-- The route that takes a path. -/
def resolve (table : RouteTable) (path : String) : Option Route :=
  table.routes.find? fun route => route.isMatch path

def size (table : RouteTable) : Nat :=
  table.routes.length

end RouteTable

end FoodOrdering
