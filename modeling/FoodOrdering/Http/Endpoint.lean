import FoodOrdering.Http.Message
import FoodOrdering.Time.Instant

/-!
# Methods of a known path

A path that is known takes some methods.  Whoever reads it may also ask for the head only, and
gets everything but the body.  Another method is refused, and the refusal names those there are.
Pages of every origin may use every method, and every program tells whether it is there.
-/

/-!
## Requests across origins

Pages of every origin may use the programs with every method and every header.  A browser's
question whether it may is answered without asking anything else.
-/

namespace FoodOrdering.Http.CrossOrigin

/-- The method by which a browser asks. -/
def question : String := "OPTIONS"

/-- A response that every origin may read. -/
def opened (response : Response) : Response :=
  response.withHeader "access-control-allow-origin" "*"

/-- The answer to a browser's question. -/
def permission : Response :=
  ((opened (.bare 200)).withHeader "access-control-allow-methods" "*").withHeader
    "access-control-allow-headers" "*"

end FoodOrdering.Http.CrossOrigin

/-! ## Methods -/

namespace FoodOrdering.Http

/-- A known path with the names of the methods that it takes. -/
structure Methods where
  names : List String
  deriving DecidableEq, Repr

namespace Methods

def takes (methods : Methods) (method : String) : Bool :=
  methods.names.contains method

/-- The names as a refusal gives them. -/
def text (methods : Methods) : String :=
  ",".intercalate methods.names

end Methods

/-- What goes out for a request: the methods of its path where it has another one, and no body
where only the head is asked for. -/
def finished (methods : Option Methods) (method : String) (response : Response) : Response :=
  let response :=
    match methods with
    | none => response
    | some methods =>
        if methods.takes method || response.headers.contains "allow" then response
        else response.withHeader "allow" methods.text
  if method = "HEAD" then response.withoutBody else response

end FoodOrdering.Http

/-! ## Health -/

namespace FoodOrdering.Health

def path : String := "/health"

def version : String := "0.1.0"

def answer (program : String) (now : Instant) : Http.Response :=
  .ofJson 200
    (.object
      [("status", .text "healthy"), ("service", .text program), ("version", .text version),
        ("timestamp", .text now.zeroOffset)])

end FoodOrdering.Health
