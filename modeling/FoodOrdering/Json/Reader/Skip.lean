import FoodOrdering.Json.Reader.Shape

/-!
# Skipped values

Values that nobody asks for are skipped with a stack of open brackets, so they may nest to any
depth, and of their numbers and texts only the form is checked.
-/

namespace FoodOrdering.Json.Reader

inductive Bracket where
  | list
  | object
  deriving DecidableEq, Repr

def Bracket.closing : Bracket → UInt8
  | .list => 0x5d
  | .object => 0x7d

/-- The form of a value that opens no bracket, behind its first byte. -/
def skipAtom (first : UInt8) : Reader Unit :=
  if first = 0x6e ∨ first = 0x74 ∨ first = 0x66 then wordAfter first
  else if first = 0x22 then skipText
  else if startsNumber first then do
    let _ ← numberText first
  else fail .malformed

/-- The name of a skipped member, behind its opening mark, and the colon. -/
def skipName : Reader Unit := do
  skipText
  memberValue (done ())

/-- What a skipping reader has to do next. -/
inductive SkipState where
  /-- A value comes next. -/
  | before
  /-- A value has just ended. -/
  | behind

/-- Skip what is left of a value inside the open brackets; `input` is what is left of `whole`. -/
def skipFrom (whole : List UInt8) (state : SkipState) (stack : List Bracket)
    (input : List UInt8) (h : input.length ≤ whole.length) : Except Fault Unit × Rest whole :=
  match state, stack with
  | .behind, [] => (.ok (), ⟨input, h⟩)
  | .before, stack =>
      match token input with
      | none => (.error .malformed, ⟨[], Nat.zero_le _⟩)
      | some (byte, rest) =>
          have hrest : rest.1.length ≤ whole.length := Nat.le_trans (Nat.le_of_lt rest.2) h
          if byte = 0x5b then
            match token rest.1 with
            | none => (.error .malformed, ⟨[], Nat.zero_le _⟩)
            | some (inner, after) =>
                have := Nat.lt_trans after.2 rest.2
                have := rest.2
                if inner = 0x5d then
                  skipFrom whole .behind stack after.1
                    (Nat.le_trans (Nat.le_of_lt after.2) hrest)
                else skipFrom whole .before (.list :: stack) rest.1 hrest
          else if byte = 0x7b then
            match token rest.1 with
            | none => (.error .malformed, ⟨[], Nat.zero_le _⟩)
            | some (inner, after) =>
                have := Nat.lt_trans after.2 rest.2
                have hafter : after.1.length ≤ whole.length :=
                  Nat.le_trans (Nat.le_of_lt after.2) hrest
                if inner = 0x7d then skipFrom whole .behind stack after.1 hafter
                else if inner = 0x22 then
                  match skipName after.1 with
                  | (.error fault, left) => (.error fault, Rest.weaken hafter left)
                  | (.ok _, left) =>
                      have := Nat.lt_of_le_of_lt left.2 (Nat.lt_trans after.2 rest.2)
                      skipFrom whole .before (.object :: stack) left.1
                        (Nat.le_trans left.2 hafter)
                else (.error .malformed, ⟨rest.1, hrest⟩)
          else
            match skipAtom byte rest.1 with
            | (.error fault, left) => (.error fault, Rest.weaken hrest left)
            | (.ok _, left) =>
                have := Nat.lt_of_le_of_lt left.2 rest.2
                skipFrom whole .behind stack left.1 (Nat.le_trans left.2 hrest)
  | .behind, bracket :: outer =>
      match token input with
      | none => (.error .malformed, ⟨[], Nat.zero_le _⟩)
      | some (byte, rest) =>
          have := rest.2
          have hrest : rest.1.length ≤ whole.length := Nat.le_trans (Nat.le_of_lt rest.2) h
          if byte = bracket.closing then skipFrom whole .behind outer rest.1 hrest
          else if byte = 0x2c then
            match bracket with
            | .list => skipFrom whole .before (.list :: outer) rest.1 hrest
            | .object =>
                match token rest.1 with
                | none => (.error .malformed, ⟨[], Nat.zero_le _⟩)
                | some (mark, body) =>
                    have hbody : body.1.length ≤ whole.length :=
                      Nat.le_trans (Nat.le_of_lt body.2) hrest
                    if mark = 0x22 then
                      match skipName body.1 with
                      | (.error fault, left) => (.error fault, Rest.weaken hbody left)
                      | (.ok _, left) =>
                          have := Nat.lt_of_le_of_lt left.2 (Nat.lt_trans body.2 rest.2)
                          skipFrom whole .before (.object :: outer) left.1
                            (Nat.le_trans left.2 hbody)
                    else (.error .malformed, ⟨rest.1, hrest⟩)
          else (.error .malformed, ⟨input, h⟩)
termination_by input.length

/-- Skip one value of any shape and depth. -/
def skipValue : Reader Unit :=
  fun input => skipFrom input .before [] input (Rest.length_le_self input)

end FoodOrdering.Json.Reader
