import FoodOrdering.Time.Duration
import FoodOrdering.Proofs.Except

/-!
# Carried lengths of time

Whole seconds are carried over at every addition, so what is read from a text has less than a
second of nanoseconds.
-/

namespace FoodOrdering.Duration

variable {duration sum : Duration}

/-- The length in nanoseconds. -/
def total (duration : Duration) : Nat :=
  duration.seconds * nanosecondsPerSecond + duration.nanoseconds

/-- The nanoseconds are less than a second. -/
def IsCarried (duration : Duration) : Prop :=
  duration.nanoseconds < nanosecondsPerSecond

theorem isCarried_zero : zero.IsCarried :=
  Nat.zero_lt_succ _

theorem total_pos (h : duration ≠ zero) : 0 < duration.total := by
  obtain ⟨seconds, nanoseconds⟩ := duration
  rw [Ne, zero, Duration.mk.injEq] at h
  unfold total nanosecondsPerSecond
  dsimp only
  omega

/-- A carried length shorter than a second has no seconds. -/
theorem IsCarried.total_lt_iff (h : duration.IsCarried) :
    duration.total < nanosecondsPerSecond ↔ duration.seconds = 0 := by
  unfold IsCarried nanosecondsPerSecond at h
  unfold total nanosecondsPerSecond
  omega

theorem isCarried_plus {seconds nanoseconds : Nat}
    (h : duration.plus seconds nanoseconds = .ok sum) : sum.IsCarried := by
  obtain ⟨added, -, h⟩ := bind_eq_ok_iff.1 h
  obtain ⟨carried, -, h⟩ := bind_eq_ok_iff.1 h
  obtain ⟨whole, -, h⟩ := bind_eq_ok_iff.1 h
  cases h
  exact Nat.mod_lt added (by decide)

theorem isCarried_plusWhole {number : Nat} {unit : UnitLength}
    (h : duration.plusWhole number unit = .ok sum) : sum.IsCarried := by
  cases unit with
  | nanoseconds count =>
      obtain ⟨scaled, -, h⟩ := bind_eq_ok_iff.1 h
      exact isCarried_plus h
  | seconds count =>
      obtain ⟨scaled, -, h⟩ := bind_eq_ok_iff.1 h
      exact isCarried_plus h

theorem isCarried_plusFraction {fraction : Fraction} {unit : UnitLength}
    (h : duration.plusFraction fraction unit = .ok sum) : sum.IsCarried := by
  unfold plusFraction at h
  split at h
  · cases h
  · obtain ⟨scaled, -, h⟩ := bind_eq_ok_iff.1 h
    obtain ⟨quotient, -, h⟩ := bind_eq_ok_iff.1 h
    exact isCarried_plus h
  · split at h
    all_goals
      obtain ⟨scaled, -, h⟩ := bind_eq_ok_iff.1 h
      obtain ⟨quotient, -, h⟩ := bind_eq_ok_iff.1 h
      exact isCarried_plus h

/-- Whatever the sum was before, it is carried once a unit has been added. -/
theorem isCarried_finishUnit {value : Nat} {digits : Option Fraction} {unit : List Char}
    (h : finishUnit duration value digits unit = .ok sum) : sum.IsCarried := by
  unfold finishUnit at h
  split at h
  · cases h
  · obtain ⟨whole, hwhole, h⟩ := bind_eq_ok_iff.1 h
    split at h
    · cases h
      exact isCarried_plusWhole hwhole
    · exact isCarried_plusFraction h

namespace Progress

variable {progress next : Progress}

/-- A character leaves the sum as it is, or ends a unit that is added to it. -/
theorem step_cases {position : Nat} {c : Char} (h : progress.step position c = .ok next) :
    next.sum = progress.sum ∨
      ∃ value digits unit, finishUnit progress.sum value digits unit = .ok next.sum := by
  unfold step at h
  split at h
  case h_1 =>
    repeat' split at h
    all_goals cases h
    all_goals exact Or.inl rfl
  case h_2 =>
    split at h
    · obtain ⟨value, -, h⟩ := bind_eq_ok_iff.1 h
      cases h
      exact Or.inl rfl
    · repeat' split at h
      all_goals cases h
      all_goals exact Or.inl rfl
  case h_3 =>
    dsimp only at h
    split at h
    · obtain ⟨denominator, -, h⟩ := bind_eq_ok_iff.1 h
      obtain ⟨numerator, -, h⟩ := bind_eq_ok_iff.1 h
      cases h
      exact Or.inl rfl
    · repeat' split at h
      all_goals cases h
      all_goals exact Or.inl rfl
  case h_4 value digits letters _ =>
    split at h
    · cases h
      exact Or.inl rfl
    split at h
    · obtain ⟨sum, hsum, h⟩ := bind_eq_ok_iff.1 h
      cases h
      exact Or.inr ⟨value, digits, letters.reverse, hsum⟩
    split at h
    · obtain ⟨sum, hsum, h⟩ := bind_eq_ok_iff.1 h
      cases h
      exact Or.inr ⟨value, digits, letters.reverse, hsum⟩
    · cases h

theorem isCarried_step {position : Nat} {c : Char} (h : progress.step position c = .ok next)
    (hsum : progress.sum.IsCarried) : next.sum.IsCarried := by
  rcases step_cases h with hsame | ⟨value, digits, unit, hadded⟩
  · rwa [hsame]
  · exact isCarried_finishUnit hadded

theorem isCarried_steps {position : Nat} {text : List Char}
    (h : progress.steps position text = .ok next) (hsum : progress.sum.IsCarried) :
    next.sum.IsCarried := by
  induction text generalizing progress position with
  | nil =>
      cases h
      exact hsum
  | cons c rest ih =>
      obtain ⟨stepped, hstep, h⟩ := bind_eq_ok_iff.1 h
      exact ih h (isCarried_step hstep hsum)

theorem isCarried_finish (h : progress.finish = .ok sum) (hsum : progress.sum.IsCarried) :
    sum.IsCarried := by
  unfold finish at h
  split at h
  · split at h
    · cases h
      exact hsum
    · cases h
  · exact isCarried_finishUnit h
  · split at h
    · cases h
    · exact isCarried_finishUnit h
  · exact isCarried_finishUnit h

end Progress

theorem isCarried_parse {text : String} (h : parse text = .ok duration) : duration.IsCarried := by
  obtain ⟨last, hlast, h⟩ := bind_eq_ok_iff.1 h
  exact Progress.isCarried_finish h (Progress.isCarried_steps hlast isCarried_zero)

end FoodOrdering.Duration
