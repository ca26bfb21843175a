/-!
# Counters

What a program counts: an amount under a name and labels.  A name together with its labels, in
order of their keys, is the text under which amounts are added up.
-/

namespace FoodOrdering

structure Measurement where
  name : String
  labels : List (String × String)
  amount : Nat
  deriving DecidableEq, Repr

namespace Measurement

/-- One under a name and labels. -/
def one (name : String) (labels : List (String × String)) : Measurement :=
  { name, labels, amount := 1 }

/-- The name, with the labels between curly brackets if there are any. -/
def text (measurement : Measurement) : String :=
  if measurement.labels.isEmpty then measurement.name
  else
    let labels := measurement.labels.mergeSort fun first second => first.1 ≤ second.1
    measurement.name ++ "\x7b" ++
      ",".intercalate (labels.map fun label => label.1 ++ "=" ++ label.2) ++ "\x7d"

/-- Add an amount to the sum under a text. -/
def addTo (text : String) (amount : Nat) : List (String × Nat) → List (String × Nat)
  | [] => [(text, amount)]
  | (other, sum) :: rest =>
      if other = text then (other, sum + amount) :: rest else (other, sum) :: addTo text amount rest

/-- The sums of what was counted under each text. -/
def sums (measurements : List Measurement) : List (String × Nat) :=
  measurements.foldl (fun sums measurement => addTo measurement.text measurement.amount sums) []

end Measurement

end FoodOrdering
