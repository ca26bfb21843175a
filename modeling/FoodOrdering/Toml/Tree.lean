import FoodOrdering.Toml.Value

/-!
# Building tables

Tables come from headers, from dotted keys and from headers of tables inside them, and each origin
may be extended in its own way.  A table that only a longer header named may still get a header of
its own, once; a table of dotted keys grows by dotted keys alone; values in place, inline tables
among them, are complete.
-/

namespace FoodOrdering.Toml

/-- Where a table comes from. -/
inductive Origin where
  /-- It has a header of its own. -/
  | header
  /-- A longer header names it. -/
  | passed
  /-- Dotted keys name it. -/
  | dotted
  deriving DecidableEq, Repr

inductive Node where
  | value (value : Toml)
  | table (origin : Origin) (entries : List (String × Node))
  /-- The tables of one repeated header. -/
  | tables (elements : List (List (String × Node)))
  deriving Inhabited

/-- The entries of a table under construction. -/
abbrev Entries : Type := List (String × Node)

namespace Entries

def get? (entries : Entries) (key : String) : Option Node :=
  (entries.find? fun entry => entry.1 == key).map Prod.snd

/-- Put a node under a key, in place of an earlier one. -/
def put (entries : Entries) (key : String) (node : Node) : Entries :=
  if entries.any fun entry => entry.1 == key then
    entries.map fun entry => if entry.1 == key then (key, node) else entry
  else entries ++ [(key, node)]

/-- Enter a value under a dotted key; `origin` is that of the table itself. -/
def insert (value : Toml) : List String → Origin → Entries → Option Entries
  | [], _, _ => none
  | [key], origin, entries =>
      if origin = .passed then none
      else
        match entries.get? key with
        | some _ => none
        | none => some (entries.put key (.value value))
  | key :: keys, _, entries =>
      match entries.get? key with
      | none => do
          let inner ← insert value keys .dotted []
          return entries.put key (.table .dotted inner)
      | some (.table .header _) => none
      | some (.table origin inner) => do
          let inner ← insert value keys origin inner
          return entries.put key (.table origin inner)
      | some (.tables elements) =>
          match elements.reverse with
          | [] => none
          | last :: before => do
              let last ← insert value keys .passed last
              return entries.put key (.tables (before.reverse ++ [last]))
      | some (.value _) => none

/-- Change the table that a header names: `change` gets what lies under its last key. -/
def atHeader (change : Option Node → Option Node) : List String → Entries → Option Entries
  | [], _ => none
  | [key], entries => do
      let node ← change (entries.get? key)
      return entries.put key node
  | key :: keys, entries =>
      match entries.get? key with
      | none => do
          let inner ← atHeader change keys []
          return entries.put key (.table .passed inner)
      | some (.table origin inner) => do
          let inner ← atHeader change keys inner
          return entries.put key (.table origin inner)
      | some (.tables elements) =>
          match elements.reverse with
          | [] => none
          | last :: before => do
              let last ← atHeader change keys last
              return entries.put key (.tables (before.reverse ++ [last]))
      | some (.value _) => none

/-- Open the table of a header. -/
def openTable (path : List String) (entries : Entries) : Option Entries :=
  entries.atHeader
    (fun
      | none => some (.table .header [])
      | some (.table .passed inner) => some (.table .header inner)
      | some _ => none) path

/-- Open one more table of a repeated header. -/
def openElement (path : List String) (entries : Entries) : Option Entries :=
  entries.atHeader
    (fun
      | none => some (.tables [[]])
      | some (.tables elements) => some (.tables (elements ++ [[]]))
      | some _ => none) path

/-- Enter a value under a dotted key of the table that the last header opened. -/
def insertAt (path keys : List String) (value : Toml) (entries : Entries) : Option Entries :=
  if path.isEmpty then entries.insert value keys .header
  else
    entries.atHeader
      (fun
        | some (.table .header inner) => do
            return .table .header (← Entries.insert value keys .header inner)
        | some (.tables elements) =>
            match elements.reverse with
            | [] => none
            | last :: before => do
                let last ← Entries.insert value keys .header last
                return .tables (before.reverse ++ [last])
        | _ => none) path

end Entries

mutual

/-- What a finished node says. -/
def Node.toToml : Node → Toml
  | .value value => value
  | .table _ entries => .table (entriesToToml entries)
  | .tables elements => .list (elementsToToml elements)

def entriesToToml : List (String × Node) → List (String × Toml)
  | [] => []
  | (key, node) :: rest => (key, node.toToml) :: entriesToToml rest

def elementsToToml : List (List (String × Node)) → List Toml
  | [] => []
  | entries :: rest => .table (entriesToToml entries) :: elementsToToml rest

end

end FoodOrdering.Toml
