import FoodOrdering.Reading

/-!
# What a reading gives

A reading gives a result and leaves a rest.  Readings one after the other give what the last one
gives, from where the one before it stopped.
-/

namespace FoodOrdering.Reading

variable {τ ε α β : Type}

/-- The reading gives this result and leaves this rest. -/
def Gives (reading : Reading τ ε α) (input : List τ) (result : Except ε α) (rest : List τ) :
    Prop :=
  (reading input).1 = result ∧ (reading input).2.1 = rest

variable {input middle rest : List τ}

/-- What is known of a reading may be put in its place. -/
theorem Gives.exists_eq {reading : Reading τ ε α} {result : Except ε α}
    (h : Gives reading input result rest) : ∃ hle, reading input = (result, ⟨rest, hle⟩) := by
  obtain ⟨rfl, rfl⟩ := h
  exact ⟨(reading input).2.2, rfl⟩

theorem gives_done (value : α) (input : List τ) :
    Gives (done value : Reading τ ε α) input (.ok value) input :=
  ⟨rfl, rfl⟩

theorem gives_fail (fault : ε) (input : List τ) :
    Gives (fail fault : Reading τ ε α) input (.error fault) input :=
  ⟨rfl, rfl⟩

theorem gives_peek (symbol : τ) (rest : List τ) :
    Gives (peek : Reading τ ε (Option τ)) (symbol :: rest) (.ok (some symbol)) (symbol :: rest) :=
  ⟨rfl, rfl⟩

theorem gives_next (symbol : τ) (rest : List τ) :
    Gives (next : Reading τ ε (Option τ)) (symbol :: rest) (.ok (some symbol)) rest :=
  ⟨rfl, rfl⟩

theorem Gives.bind {first : Reading τ ε α} {second : α → Reading τ ε β} {value : α}
    {result : Except ε β} (h : Gives first input (.ok value) middle)
    (hnext : Gives (second value) middle result rest) :
    Gives (first >>= second) input result rest := by
  obtain ⟨hle, hread⟩ := h.exists_eq
  show Gives (andThen first second) input result rest
  unfold Gives andThen
  rw [hread]
  exact hnext

/-- Nothing is read behind a failure. -/
theorem Gives.bind_error {first : Reading τ ε α} {second : α → Reading τ ε β} {fault : ε}
    (h : Gives first input (.error fault) rest) :
    Gives (first >>= second) input (.error fault) rest := by
  obtain ⟨hle, hread⟩ := h.exists_eq
  show Gives (andThen first second) input (.error fault) rest
  unfold Gives andThen
  rw [hread]
  exact ⟨rfl, rfl⟩

theorem gives_self (reading : Reading τ ε α) (input : List τ) :
    Gives reading input (reading input).1 (reading input).2.1 :=
  ⟨rfl, rfl⟩

theorem Gives.unique {reading : Reading τ ε α} {result other : Except ε α}
    (h : Gives reading input result rest) (hother : Gives reading input other middle) :
    result = other ∧ rest = middle :=
  ⟨h.1.symm.trans hother.1, h.2.symm.trans hother.2⟩

/-- What is known of the first of two readings need not be read again. -/
theorem Gives.bind_iff {first : Reading τ ε α} {second : α → Reading τ ε β} {value : α}
    {result : Except ε β} (h : Gives first input (.ok value) middle) :
    Gives (first >>= second) input result rest ↔ Gives (second value) middle result rest := by
  constructor
  · intro hboth
    have hnext := h.bind (gives_self (second value) middle)
    obtain ⟨rfl, rfl⟩ := hboth.unique hnext
    exact gives_self ..
  · exact h.bind

theorem gives_bind_ok_iff {first : Reading τ ε α} {second : α → Reading τ ε β} {value : β} :
    Gives (first >>= second) input (.ok value) rest ↔ ∃ found middle,
      Gives first input (.ok found) middle ∧ Gives (second found) middle (.ok value) rest := by
  constructor
  · intro h
    have hfirst := gives_self first input
    cases hresult : (first input).1 with
    | error fault =>
        rw [hresult] at hfirst
        cases (h.unique hfirst.bind_error).1
    | ok found =>
        rw [hresult] at hfirst
        exact ⟨found, _, hfirst, hfirst.bind_iff.1 h⟩
  · rintro ⟨found, middle, hfirst, hnext⟩
    exact hfirst.bind hnext

theorem gives_done_iff {value : α} {result : Except ε α} :
    Gives (done value : Reading τ ε α) input result rest ↔ result = .ok value ∧ rest = input :=
  ⟨fun h => h.unique (gives_done value input), by rintro ⟨rfl, rfl⟩; exact gives_done value rest⟩

theorem not_gives_fail {fault : ε} {value : α} :
    ¬ Gives (fail fault : Reading τ ε α) input (.ok value) rest :=
  fun h => nomatch h.1

theorem Gives.map {reading : Reading τ ε α} {value : α} (convert : α → β)
    (h : Gives reading input (.ok value) rest) :
    Gives (convert <$> reading) input (.ok (convert value)) rest :=
  h.bind (gives_done (convert value) rest)

theorem Gives.attempt {reading : Reading τ ε α} {result : Except ε α}
    (h : Gives reading input result rest) :
    Gives (attempt reading) input (.ok result.toOption) rest := by
  obtain ⟨rfl, rfl⟩ := h
  exact ⟨rfl, rfl⟩

theorem gives_of_attempt {reading : Reading τ ε α} {value : α}
    (h : Gives (attempt reading) input (.ok (some value)) rest) :
    Gives reading input (.ok value) rest := by
  have hread := gives_self reading input
  obtain ⟨hfound, hrest⟩ := h.unique hread.attempt
  cases hresult : (reading input).1 with
  | error fault =>
      rw [hresult] at hfound
      cases hfound
  | ok other =>
      rw [hresult] at hfound hread
      cases hfound
      rw [hrest]
      exact hread

theorem Gives.closedBy {body : Reading τ ε α} {close : Reading τ ε Unit} {value : α}
    (h : Gives body input (.ok value) middle) (hclose : Gives close middle (.ok ()) rest) :
    Gives (closedBy body close) input (.ok value) rest := by
  obtain ⟨hle, hread⟩ := h.exists_eq
  obtain ⟨hlast, hend⟩ := hclose.exists_eq
  unfold Gives Reading.closedBy
  rw [hread]
  dsimp only
  rw [hend]
  exact ⟨rfl, rfl⟩

theorem gives_closedBy_ok_iff {body : Reading τ ε α} {close : Reading τ ε Unit} {value : α} :
    Gives (closedBy body close) input (.ok value) rest ↔ ∃ middle,
      Gives body input (.ok value) middle ∧ Gives close middle (.ok ()) rest := by
  constructor
  · rintro ⟨hvalue, hrest⟩
    unfold Reading.closedBy at hvalue hrest
    refine ⟨(body input).2.1, ?_⟩
    cases hbody : body input with
    | mk outcome left =>
        rw [hbody] at hvalue hrest
        dsimp only at hvalue hrest ⊢
        cases hclose : close left.1 with
        | mk ended last =>
            rw [hclose] at hvalue hrest
            dsimp only at hvalue hrest
            unfold Gives
            rw [hbody, hclose]
            cases outcome with
            | error fault => cases hvalue
            | ok found =>
                cases ended with
                | error fault => cases hvalue
                | ok done => exact ⟨⟨hvalue, rfl⟩, rfl, hrest⟩
  · rintro ⟨middle, hbody, hclose⟩
    exact hbody.closedBy hclose

/-- A run ends where a symbol does not belong to it any more. -/
theorem gives_run {p : τ → Bool} {symbols rest : List τ} (hrun : ∀ symbol ∈ symbols, p symbol = true)
    (hend : ∀ symbol, rest.head? = some symbol → p symbol = false) :
    Gives (run p : Reading τ ε (List τ)) (symbols ++ rest) (.ok symbols) rest := by
  have hstop : rest.takeWhile p = [] ∧ rest.dropWhile p = rest := by
    cases rest with
    | nil => exact ⟨rfl, rfl⟩
    | cons symbol others => simp [hend symbol rfl]
  constructor
  · show Except.ok ((symbols ++ rest).takeWhile p) = _
    rw [List.takeWhile_append_of_pos hrun, hstop.1, List.append_nil]
  · show (symbols ++ rest).dropWhile p = rest
    rw [List.dropWhile_append_of_pos hrun, hstop.2]

end FoodOrdering.Reading
