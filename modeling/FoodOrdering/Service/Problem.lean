import FoodOrdering.Http.Message
import FoodOrdering.Identity.Guard
import FoodOrdering.Json.Reader.Basic
import FoodOrdering.Service.FieldErrors
import FoodOrdering.Store.Restaurants
import FoodOrdering.Text.Quoted

/-!
# Requests that the service does not serve

Every cause has a text for the log, and a status with a message for the caller.  What is wrong
with single fields goes along as data; what went wrong inside is not told.
-/

namespace FoodOrdering.Service

/-- Why a body is not read. -/
inductive BodyFault where
  /-- The request does not say that its body is JSON. -/
  | mediaType
  | tooLarge
  | content (fault : Json.Fault)
  deriving DecidableEq, Repr

def BodyFault.message : BodyFault → String
  | .mediaType => "Expected request with \x60Content-Type: application/json\x60"
  | .tooLarge => "Failed to buffer the request body: length limit exceeded"
  | .content .malformed => "Failed to parse the request body as JSON"
  | .content .mismatch => "Failed to deserialize the JSON body into the target type"

/-- Why a part of the path is no id. -/
inductive PathFault where
  /-- The bytes of the part are no text. -/
  | notText (name : String)
  | notNumber (value : String)
  /-- One of several parts is no number. -/
  | notNumberAt (index : Nat) (value : String)
  deriving DecidableEq, Repr

/-- A text between the marks that faults put around what they show. -/
def marked (text : String) : String :=
  "\x60" ++ text ++ "\x60"

def PathFault.message : PathFault → String
  | .notText name => "Invalid URL: Invalid UTF-8 in " ++ marked name
  | .notNumber value => "Invalid URL: Cannot parse " ++ marked value ++ " to a \x60i64\x60"
  | .notNumberAt index value =>
      "Invalid URL: Cannot parse value at index " ++ Text.ofNat index ++ " with value " ++
        marked value ++ " to a \x60i64\x60"

inductive Problem where
  | forbidden (operation : String) (denial : Denial)
  | notFound (message : String)
  | invalid (errors : FieldErrors)
  | body (fault : BodyFault)
  | path (fault : PathFault)
  /-- The stores contradict themselves. -/
  | internal (detail : String)

namespace Problem

/-- What a refusal of the stores means to the caller. -/
def ofStore : StoreError → Problem
  | .noSuchRestaurant id => .internal (StoreError.noSuchRestaurant id).message
  | fault => .notFound fault.message

def restaurantNotFound (id : Int64) : Problem :=
  .notFound (StoreError.restaurantNotFound id).message

def status : Problem → Nat
  | .forbidden _ _ => 403
  | .notFound _ => 404
  | .invalid _ | .body _ | .path _ => 400
  | .internal _ => 500

/-- What the caller is told. -/
def message : Problem → String
  | .forbidden _ denial => denial.message
  | .notFound message => message
  | .invalid _ => "Validation failed"
  | .body fault => "Malformed request body: " ++ fault.message
  | .path fault => "Invalid path parameter: " ++ fault.message
  | .internal _ => "An unexpected error occurred"

/-- What is said of single fields. -/
def data : Problem → Json
  | .invalid errors => .object (errors.joined.map fun entry => (entry.1, .text entry.2))
  | _ => .null

/-- Names and texts between curly brackets, as they are shown for diagnosis. -/
def shownEntries (entries : List (String × String)) : String :=
  "\x7b" ++
    ", ".intercalate (entries.map fun entry =>
      Text.quoted entry.1 ++ ": " ++ Text.quoted entry.2) ++ "\x7d"

/-- What the log is told. -/
def text : Problem → String
  | .forbidden operation denial => "Forbidden: " ++ operation ++ " denied (" ++ denial.code ++ ")"
  | .notFound message => "Resource not found: " ++ message
  | .invalid errors => "Validation failed: " ++ shownEntries errors.joined
  | .body fault => "Bad request: " ++ (Problem.body fault).message
  | .path fault => "Bad request: " ++ (Problem.path fault).message
  | .internal detail => "Internal error: " ++ detail

end Problem

end FoodOrdering.Service

namespace FoodOrdering.FieldErrors

/-- Refuse a request of which anything was said. -/
def finish (errors : FieldErrors) : Except Service.Problem Unit :=
  if errors.isEmpty then .ok () else .error (.invalid errors)

end FoodOrdering.FieldErrors
