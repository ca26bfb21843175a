/-!
# Readings

A reading takes what it needs from the front of a list of symbols and says what is left, also when
it fails: a caller that survives a failure goes on from there.  What is left is never more than
there was, so that a loop that takes at least one symbol each time comes to an end.
-/

namespace FoodOrdering

variable {τ ε α β : Type}

/-- What may be left of an input: never more than there was. -/
def Rest (input : List τ) : Type :=
  { rest : List τ // rest.length ≤ input.length }

/-- Before anything is read, all of the input is left. -/
theorem Rest.length_le_self (input : List τ) : input.length ≤ input.length :=
  Nat.le_refl _

/-- Keep a remainder of a shorter input. -/
def Rest.weaken {shorter longer : List τ} (h : shorter.length ≤ longer.length)
    (rest : Rest shorter) : Rest longer :=
  ⟨rest.1, Nat.le_trans rest.2 h⟩

/-- Reads a value from the front of a list of symbols `τ`, or fails with a fault `ε`. -/
def Reading (τ ε α : Type) : Type :=
  (input : List τ) → Except ε α × Rest input

namespace Reading

/-- Succeed without reading. -/
def done (value : α) : Reading τ ε α :=
  fun input => (.ok value, ⟨input, Nat.le_refl _⟩)

/-- Fail without reading. -/
def fail (fault : ε) : Reading τ ε α :=
  fun input => (.error fault, ⟨input, Nat.le_refl _⟩)

/-- Read once and go on with a second reading from where it stopped. -/
def andThen (first : Reading τ ε α) (second : α → Reading τ ε β) : Reading τ ε β :=
  fun input =>
    match first input with
    | (.error fault, rest) => (.error fault, rest)
    | (.ok value, rest) =>
        let (result, last) := second value rest.1
        (result, Rest.weaken rest.2 last)

instance : Monad (Reading τ ε) where
  pure := done
  bind := andThen

/-- Succeed with what an earlier decision gave. -/
def ofExcept : Except ε α → Reading τ ε α
  | .ok value => done value
  | .error fault => fail fault

/-- Run the second reading whatever the first one gave; the first failure counts. -/
def closedBy (body : Reading τ ε α) (close : Reading τ ε Unit) : Reading τ ε α :=
  fun input =>
    let (result, rest) := body input
    let (ended, last) := close rest.1
    let result :=
      match result, ended with
      | .error fault, _ => .error fault
      | .ok _, .error fault => .error fault
      | .ok value, .ok () => .ok value
    (result, Rest.weaken rest.2 last)

/-- Run a reading that may fail, and go on from where it stopped. -/
def attempt (reading : Reading τ ε α) : Reading τ ε (Option α) :=
  fun input =>
    let (result, rest) := reading input
    (.ok result.toOption, rest)

/-- The next symbol, which stays in the input. -/
def peek : Reading τ ε (Option τ) :=
  fun input => (.ok input.head?, ⟨input, Nat.le_refl _⟩)

/-- The next symbol, taken from the input. -/
def next : Reading τ ε (Option τ)
  | [] => (.ok none, ⟨[], Nat.le_refl _⟩)
  | symbol :: rest => (.ok (some symbol), ⟨rest, Nat.le_succ _⟩)

theorem length_dropWhile_le (p : τ → Bool) (symbols : List τ) :
    (symbols.dropWhile p).length ≤ symbols.length :=
  (List.dropWhile_sublist p).length_le

/-- The run of symbols at the front that satisfy `p`, possibly empty. -/
def run (p : τ → Bool) : Reading τ ε (List τ) :=
  fun input => (.ok (input.takeWhile p), ⟨input.dropWhile p, length_dropWhile_le ..⟩)

/-- Skip the symbols at the front that satisfy `p`. -/
def skip (p : τ → Bool) : Reading τ ε Unit :=
  fun input => (.ok (), ⟨input.dropWhile p, length_dropWhile_le ..⟩)

/-- What comes after one step of a loop. -/
inductive Step (σ α : Type) where
  | again (state : σ)
  | stop (value : α)

/-- Repeat a step until it stops; a step that takes nothing and does not stop is stuck. -/
def loop {σ : Type} (stuck : ε) (step : σ → Reading τ ε (Step σ α)) (state : σ) :
    Reading τ ε α :=
  fun input =>
    match step state input with
    | (.error fault, rest) => (.error fault, rest)
    | (.ok (.stop value), rest) => (.ok value, rest)
    | (.ok (.again state), rest) =>
        if _h : rest.1.length < input.length then
          let (result, last) := loop stuck step state rest.1
          (result, Rest.weaken rest.2 last)
        else (.error stuck, rest)
termination_by input => input.length

end Reading

end FoodOrdering
