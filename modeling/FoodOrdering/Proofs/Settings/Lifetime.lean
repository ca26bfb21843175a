import FoodOrdering.Settings.Validity
import FoodOrdering.Proofs.Time.Duration
import FoodOrdering.Proofs.Token.Signed

/-!
# How long tokens are valid

A token counts its lifetime in whole seconds, up to the last second there is.  An accepted lifetime
is more than nothing, but one below a second comes to no whole second, and then a token ends when
it begins.
-/

namespace FoodOrdering

theorem toInt_ofIntClamp_of_nonneg {value : Int} (h : 0 ≤ value) :
    (Int64.ofIntClamp value).toInt = min value Int64.maxValue.toInt := by
  have hleast : Int64.minValue.toInt ≤ value := Int.le_trans (by decide) h
  unfold Int64.ofIntClamp
  rw [dif_pos hleast]
  by_cases hmost : value ≤ Int64.maxValue.toInt
  · rw [dif_pos hmost, Int64.toInt_ofIntLE, Int.min_eq_left hmost]
  · rw [dif_neg hmost, Int.min_eq_right (Int.le_of_not_le hmost)]

namespace Claims

variable {userId now : Int64} {role email : String}

/-- The lifetime is cut and then the end of validity, which is as good as one cut. -/
theorem toInt_exp_issue (lifetime : Nat) (hnow : 0 ≤ now) :
    (issue userId role email now lifetime).exp.toInt =
      min (now.toInt + lifetime) Int64.maxValue.toInt := by
  have hbegin : 0 ≤ now.toInt := Int64.le_iff_toInt_le.1 hnow
  have hmost : (0 : Int) ≤ Int64.maxValue.toInt := by decide
  have hlifetime := toInt_ofIntClamp_of_nonneg (Int.natCast_nonneg lifetime)
  have hsum : 0 ≤ now.toInt + (Int64.ofIntClamp lifetime).toInt := by omega
  show (Int64.ofIntClamp (now.toInt + (Int64.ofIntClamp lifetime).toInt)).toInt = _
  rw [toInt_ofIntClamp_of_nonneg hsum, hlifetime]
  omega

theorem hasSubject_issue (lifetime : Nat) (hid : 0 < userId) :
    (issue userId role email now lifetime).HasSubject userId :=
  ⟨Text.readInt64?_ofInt64 userId, hid⟩

end Claims

namespace Token

/-- A token is valid when it is issued if its lifetime comes to a second at least. -/
theorem verify_issue (secret : List UInt8) {userId now : Int64} (role email : String)
    (lifetime : Nat) (hid : 0 < userId) (hnow : 0 ≤ now) (hlast : now < Int64.maxValue) :
    verify secret now (sign secret (Claims.issue userId role email now lifetime)) =
      if lifetime = 0 then .error .expired
      else .ok (Claims.issue userId role email now lifetime) := by
  set claims := Claims.issue userId role email now lifetime
  have hexp : claims.exp.toInt = min (now.toInt + lifetime) Int64.maxValue.toInt :=
    Claims.toInt_exp_issue lifetime hnow
  have hsubject : ∃ id, claims.HasSubject id := ⟨userId, Claims.hasSubject_issue lifetime hid⟩
  have hbegin : now.toInt < Int64.maxValue.toInt := Int64.lt_iff_toInt_lt.1 hlast
  have hpositive : (0 : Int64).toInt ≤ now.toInt := Int64.le_iff_toInt_le.1 hnow
  have htime : ¬ claims.exp < 0 := by
    rw [Int64.lt_iff_toInt_lt]
    omega
  have horder : ¬ claims.exp < claims.iat := by
    rw [Int64.lt_iff_toInt_lt]
    show ¬ claims.exp.toInt < now.toInt
    omega
  have hexpired : claims.exp ≤ now ↔ lifetime = 0 := by
    rw [Int64.le_iff_toInt_le]
    omega
  rw [verify_sign, if_neg htime, if_neg (not_not_intro hsubject), if_neg horder]
  simp only [hexpired]

end Token

namespace Settings.Auth

variable {auth : Auth}

/-- An accepted lifetime is a length of time that is not zero. -/
theorem exists_duration (hvalid : auth.validate = .ok ()) :
    ∃ duration, auth.duration = .ok duration ∧ duration.IsCarried ∧ duration ≠ .zero := by
  unfold validate at hvalid
  split at hvalid
  · cases hvalid
  obtain ⟨duration, hduration, -⟩ := bind_eq_ok_iff.1 hvalid
  refine ⟨duration, hduration, ?_⟩
  unfold Auth.duration at hduration
  split at hduration
  · cases hduration
  next parsed hparsed =>
    split at hduration
    · cases hduration
    next hzero =>
      cases hduration
      exact ⟨Duration.isCarried_parse hparsed, hzero⟩

/-- An accepted lifetime is some time, and from any second but the last a token that is issued for
it is valid at once if it comes to a second at least; otherwise the token has ended already. -/
theorem accepted_lifetime_counts_whole_seconds (auth : Auth) (hvalid : auth.validate = .ok ()) :
    ∃ duration, auth.duration = .ok duration ∧ 0 < duration.total ∧
      ∀ (secret : List UInt8) (userId now : Int64) (role email : String),
        0 < userId → 0 ≤ now → now < Int64.maxValue →
          let claims := Claims.issue userId role email now duration.seconds
          Token.verify secret now (Token.sign secret claims) =
            if duration.total < Duration.nanosecondsPerSecond then .error .expired
            else .ok claims := by
  obtain ⟨duration, hduration, hcarried, hzero⟩ := exists_duration hvalid
  refine ⟨duration, hduration, Duration.total_pos hzero, ?_⟩
  intro secret userId now role email hid hnow hlast
  dsimp only
  rw [Token.verify_issue secret role email duration.seconds hid hnow hlast]
  simp only [hcarried.total_lt_iff]

/-- A second and a half is counted as one second. -/
theorem second_and_half_gives_token :
    let auth : Auth := { lifetime := "1s 500ms" }
    auth.validate = .ok () ∧ auth.duration = .ok ⟨1, 500000000⟩ ∧
      ∀ (secret : List UInt8),
        let claims := Claims.issue 7 "CUSTOMER" "ama@example.com" 1700000000 1
        Token.verify secret 1700000000 (Token.sign secret claims) = .ok claims := by
  intro auth
  have hvalid : auth.validate = .ok () := by decide +kernel
  have hparsed : auth.duration = .ok ⟨1, 500000000⟩ := by decide +kernel
  obtain ⟨duration, hduration, -, hverified⟩ := accepted_lifetime_counts_whole_seconds auth hvalid
  obtain rfl : ⟨1, 500000000⟩ = duration := Except.ok.inj (hparsed.symm.trans hduration)
  refine ⟨hvalid, hparsed, fun secret => ?_⟩
  exact (hverified secret 7 1700000000 "CUSTOMER" "ama@example.com" (by decide) (by decide)
    (by decide)).trans (if_neg (by decide))

/-- Half a second is accepted as a lifetime, and is over at once. -/
theorem half_second_gives_no_token :
    let auth : Auth :=
      { secret := some "a secret of more than thirty-two bytes", lifetime := "500ms" }
    auth.validate = .ok () ∧ auth.duration = .ok ⟨0, 500000000⟩ ∧
      ∃ secret, auth.requireSecret = .ok secret ∧
        Token.verify secret 1700000000
          (Token.sign secret (Claims.issue 7 "CUSTOMER" "ama@example.com" 1700000000 0)) =
            .error .expired := by
  intro auth
  refine ⟨by decide +kernel, by decide +kernel, Text.utf8 "a secret of more than thirty-two bytes",
    by decide +kernel, ?_⟩
  exact Token.verify_issue _ _ _ 0 (by decide) (by decide) (by decide)

end Settings.Auth

end FoodOrdering
