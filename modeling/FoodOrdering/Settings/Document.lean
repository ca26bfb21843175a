import FoodOrdering.Settings.Basic
import FoodOrdering.Toml.Value

/-!
# Settings in a document

Each part of the settings is a table.  A part may also be the list of its values in order, and a
moment counts as a table without entries.  Entries without a meaning are ignored, entries that are
left out have their usual value, and every entry that is there has its type.  Only the level of
the log may be anything at all.
-/

namespace FoodOrdering

namespace Toml

/-- The entries of a part, by position and by name. -/
def entries? : Toml → Option (Nat → String → Option Toml)
  | .table entries => some fun _ name => lookup entries name
  | .list items => some fun position _ => items[position]?
  | .moment _ => some fun _ _ => none
  | _ => none

/-- What an entry says, or the usual value where there is none. -/
def orUsual {α : Type} (read : Toml → Option α) (usual : α) : Option Toml → Option α
  | none => some usual
  | some value => read value

def text? : Toml → Option String
  | .text value => some value
  | _ => none

def bool? : Toml → Option Bool
  | .bool value => some value
  | _ => none

/-- A whole number from zero up to below a bound. -/
def below? (bound : Nat) : Toml → Option Nat
  | .integer value => if 0 ≤ value ∧ value < bound then some value.toNat else none
  | _ => none

def uint16? (value : Toml) : Option UInt16 :=
  (value.below? UInt16.size).map UInt16.ofNat

def uint64? (value : Toml) : Option UInt64 :=
  (value.below? UInt64.size).map UInt64.ofNat

def list? {α : Type} (item : Toml → Option α) : Toml → Option (List α)
  | .list items => items.mapM item
  | _ => none

/-- Neither an entry nor an item. -/
def isHollow : Toml → Bool
  | .table [] => true
  | .list [] => true
  | _ => false

end Toml

open Toml

/-- A name, or a table with the name as its only key and nothing under it. -/
def TrustKind.ofToml? : Toml → Option TrustKind
  | .text name => ofName? name
  | .table [(name, value)] => if value.isHollow then ofName? name else none
  | _ => none

/-- A text names a level, and everything else stands for the usual one. -/
def LogLevel.ofToml : Toml → LogLevel
  | .text name => .lenient name
  | _ => .upTo .info

def Route.ofToml? (value : Toml) : Option Route := do
  let entry ← value.entries?
  return { pathPrefix := ← (entry 0 "prefix").bind text?
           service := ← (entry 1 "upstream").bind text?
           authenticated := ← orUsual bool? true (entry 2 "authenticated") }

namespace Settings

def Server.ofToml? (value : Toml) : Option Server := do
  let usual : Server := {}
  let entry ← value.entries?
  return { host := ← orUsual text? usual.host (entry 0 "host")
           number := ← orUsual uint16? usual.number (entry 1 "port") }

def Gateway.ofToml? (value : Toml) : Option Gateway := do
  let usual : Gateway := {}
  let entry ← value.entries?
  return { host := ← orUsual text? usual.host (entry 0 "host")
           number := ← orUsual uint16? usual.number (entry 1 "port")
           timeout := ← orUsual uint64? usual.timeout (entry 2 "upstream_timeout_secs")
           routes := ← orUsual (list? Route.ofToml?) usual.routes (entry 3 "routes") }

def Auth.ofToml? (value : Toml) : Option Auth := do
  let usual : Auth := {}
  let entry ← value.entries?
  return { secret := ← orUsual (fun value => (text? value).map some) usual.secret
             (entry 0 "jwt_secret")
           lifetime := ← orUsual text? usual.lifetime (entry 1 "token_lifetime") }

def Trust.ofToml? (value : Toml) : Option Trust := do
  let usual : Trust := {}
  let entry ← value.entries?
  return { kind := ← orUsual TrustKind.ofToml? usual.kind (entry 0 "zone")
           peers := ← orUsual (list? text?) usual.peers (entry 1 "trusted_peers") }

def Broker.ofToml? (value : Toml) : Option Broker := do
  let usual : Broker := {}
  let entry ← value.entries?
  return { topic := ← orUsual text? usual.topic (entry 0 "order_topic")
           capacity := ← orUsual uint64? usual.capacity (entry 1 "channel_capacity") }

def Logging.ofToml? (value : Toml) : Option Logging := do
  let usual : Logging := {}
  let entry ← value.entries?
  return { level := ← orUsual (fun value => some (.ofToml value)) usual.level (entry 0 "level")
           colored := ← orUsual bool? usual.colored (entry 1 "colored")
           file := ← orUsual (fun value => (text? value).map some) usual.file (entry 2 "file")
           directory := ← orUsual text? usual.directory (entry 3 "dir") }

/-- Every number of a document is held, apart from what stands for the level of the log. -/
def areNumbersHeld (entries : List (String × Toml)) : Bool :=
  entries.all fun (name, value) =>
    match value with
    | .table inner =>
        inner.all fun (key, value) => (name == "logging" && key == "level") || value.isHeld
    | .list (first :: rest) => (name == "logging" || first.isHeld) && areHeld rest
    | _ => value.isHeld

/-- The settings that a document states. -/
def ofEntries? (entries : List (String × Toml)) : Option Settings := do
  if !areNumbersHeld entries then none
  return { server := ← orUsual Server.ofToml? {} (lookup entries "server")
           gateway := ← orUsual Gateway.ofToml? {} (lookup entries "gateway")
           auth := ← orUsual Auth.ofToml? {} (lookup entries "auth")
           trust := ← orUsual Trust.ofToml? {} (lookup entries "trust")
           broker := ← orUsual Broker.ofToml? {} (lookup entries "broker")
           logging := ← orUsual Logging.ofToml? {} (lookup entries "logging") }

end Settings

end FoodOrdering
