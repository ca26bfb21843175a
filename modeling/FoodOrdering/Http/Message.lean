import FoodOrdering.Http.Headers
import FoodOrdering.Json.Value
import FoodOrdering.Network.Address

/-!
# Requests and responses

Both are values: a request names a method and a target, a response a status, and both carry
headers and a body.
-/

namespace FoodOrdering.Http

/-- What a request asks for. -/
structure Target where
  path : String
  query : Option String
  deriving DecidableEq, Repr

namespace Target

/-- Path, and query behind a question mark if there is one. -/
def text (target : Target) : String :=
  match target.query with
  | none => target.path
  | some query => target.path ++ "?" ++ query

/-- The target in a text that begins with a path; a fragment is dropped. -/
def ofPathChars (text : List Char) : Target :=
  let text := text.takeWhile (· != '#')
  let path := text.takeWhile (· != '?')
  match text.dropWhile (· != '?') with
  | [] => { path := String.ofList path, query := none }
  | _ :: query => { path := String.ofList path, query := some (String.ofList query) }

/-- What stands behind a scheme and its two slashes. -/
def afterScheme? : List Char → Option (List Char)
  | ':' :: '/' :: '/' :: rest => some rest
  | c :: rest => if c == '/' || c == '?' || c == '#' then none else afterScheme? rest
  | [] => none

def endsHost (c : Char) : Bool :=
  c == '/' || c == '?' || c == '#'

/-- The target that the first line of a request names: a path, or an address whose path is at
least a slash. -/
def ofText (text : String) : Target :=
  match afterScheme? text.toList with
  | none => ofPathChars text.toList
  | some rest =>
      let target := ofPathChars (rest.dropWhile fun c => !endsHost c)
      if target.path.isEmpty then { target with path := "/" } else target

end Target

structure Request where
  method : String
  target : Target
  headers : Headers
  body : ByteArray
  /-- The address that the request came from, if it is known. -/
  peer : Option Address

structure Response where
  status : Nat
  headers : Headers
  body : ByteArray

namespace Response

/-- A response without headers and body. -/
def bare (status : Nat) : Response :=
  { status, headers := .empty, body := .empty }

def withType (status : Nat) (contentType : String) (body : ByteArray) : Response :=
  { status, headers := Headers.empty.insertText "content-type" contentType, body }

def plainText (status : Nat) (text : String) : Response :=
  withType status "text/plain; charset=utf-8" text.toUTF8

def ofJson (status : Nat) (value : Json) : Response :=
  withType status "application/json" value.toUtf8

/-- The response with a header under which there is this text and nothing else. -/
def withHeader (response : Response) (name text : String) : Response :=
  { response with headers := response.headers.insertText name text }

/-- What is left of a response to a request for the head only. -/
def withoutBody (response : Response) : Response :=
  { response with body := .empty }

end Response

end FoodOrdering.Http
