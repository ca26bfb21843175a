import FoodOrdering.Network.Address
import FoodOrdering.Proofs.Text.Decimal

/-!
# Addresses read back

Every address is read back from its text: four decimal bytes with points between them, or eight
hexadecimal groups with colons between them, of which the writer leaves out the longest run of
zeros and the reader puts it back.
-/

namespace FoodOrdering

namespace Address

open Text

/-! ## Four bytes -/

theorem readByte_append (byte : UInt8) {rest : List Char} (h : EndsDigits rest) :
    readByte (writeNat byte.toNat ++ rest) = some (byte, rest) := by
  have hsize : byte.toNat < 256 := byte.toNat_lt
  have hlength : (writeNat byte.toNat).length ≤ 3 :=
    (Nat.length_toDigits_le_iff (by decide) (by decide)).2 (by omega)
  have hnonempty : (writeNat byte.toNat).isEmpty = false :=
    List.isEmpty_eq_false_iff.2 Nat.toDigits_ne_nil
  -- Only zero begins with a zero, and it has no further digit.
  have hfirst : ((writeNat byte.toNat).head? == some '0' && (writeNat byte.toNat).length != 1) =
      false := by
    by_cases hzero : byte.toNat = 0
    · rw [hzero]
      rfl
    · have hhead := head?_writeNat_ne (Nat.pos_of_ne_zero hzero)
      rw [beq_eq_false_iff_ne.2 hhead, Bool.false_and]
  rw [readByte, takeWhile_writeNat _ h, dropWhile_writeNat _ h, ofDigitChars_writeNat, hnonempty,
    hfirst, decide_eq_false (Nat.not_lt.2 hlength), decide_eq_false (by omega : ¬ 255 < byte.toNat)]
  rw [UInt8.ofNat_toNat]
  rfl

theorem endsDigits_point (rest : List Char) : EndsDigits ('.' :: rest) := by
  intro c hc
  cases hc
  rfl

theorem readIPv4_append (address : IPv4) {rest : List Char} (h : EndsDigits rest) :
    readIPv4 (address.chars ++ rest) = some (address, rest) := by
  obtain ⟨a, b, c, d⟩ := address
  have hchars : IPv4.chars ⟨a, b, c, d⟩ ++ rest =
      writeNat a.toNat ++ '.' :: (writeNat b.toNat ++ '.' :: (writeNat c.toNat ++
        '.' :: (writeNat d.toNat ++ rest))) := by
    simp [IPv4.chars]
  rw [hchars, readIPv4, readByte_append a (endsDigits_point _)]
  simp only [Option.bind_eq_bind, Option.bind_some, readMark, if_true,
    readByte_append b (endsDigits_point _), readByte_append c (endsDigits_point _),
    readByte_append d h]
  rfl

theorem readIPv4_chars (address : IPv4) : readIPv4 address.chars = some (address, []) := by
  have hread := readIPv4_append address (fun _ h => nomatch h : EndsDigits [])
  rwa [List.append_nil] at hread

/-- Without a point behind its first digits a text does not begin with four bytes. -/
theorem readIPv4_eq_none {text : List Char}
    (h : (text.dropWhile Char.isDigit).head? ≠ some '.') : readIPv4 text = none := by
  have hmark : readMark '.' (text.dropWhile Char.isDigit) = none := by
    cases hrest : text.dropWhile Char.isDigit with
    | nil => rfl
    | cons c rest =>
        rw [hrest] at h
        exact if_neg fun hc => h (congrArg some hc)
  have hbyte : readByte text = none ∨
      ∃ byte, readByte text = some (byte, text.dropWhile Char.isDigit) := by
    rw [readByte]
    split
    · exact Or.inl rfl
    · split
      · exact Or.inl rfl
      · exact Or.inr ⟨_, rfl⟩
  obtain hbyte | ⟨byte, hbyte⟩ := hbyte
  · rw [readIPv4, hbyte]
    rfl
  · rw [readIPv4, hbyte]
    simp only [Option.bind_eq_bind, Option.bind_some, hmark, Option.bind_none]

/-! ## One group -/

theorem hexDigit?_digitChar : ∀ digit < 16, hexDigit? (Nat.digitChar digit) = some digit := by
  decide

theorem isSome_hexDigit?_of_mem {group : UInt16} {c : Char} (h : c ∈ hexChars group) :
    (hexDigit? c).isSome = true := by
  have hsome : ∀ digit < 16, (hexDigit? (Nat.digitChar digit)).isSome = true := by decide
  rw [hexChars] at h
  generalize group.toNat = value at h
  induction value using Nat.strongRecOn with
  | ind value ih =>
      by_cases hsmall : value < 16
      · rw [Nat.toDigits_of_lt_base hsmall, List.mem_singleton] at h
        rw [h]
        exact hsome value hsmall
      · rw [Nat.toDigits_of_base_le (by decide) (Nat.not_lt.1 hsmall), List.mem_append,
          List.mem_singleton] at h
        obtain h | h := h
        · exact ih (value / 16) (by omega) h
        · rw [h]
          exact hsome (value % 16) (Nat.mod_lt _ (by decide))

/-- A group is read as the number that it was written for. -/
theorem foldl_hexChars (group : UInt16) :
    (hexChars group).foldl (fun value c => value * 16 + (hexDigit? c).getD 0) 0 =
      group.toNat := by
  rw [hexChars]
  generalize group.toNat = value
  induction value using Nat.strongRecOn with
  | ind value ih =>
      by_cases hsmall : value < 16
      · rw [Nat.toDigits_of_lt_base hsmall, List.foldl_cons, List.foldl_nil,
          hexDigit?_digitChar value hsmall, Nat.zero_mul, Nat.zero_add, Option.getD_some]
      · have hlast := hexDigit?_digitChar (value % 16) (Nat.mod_lt _ (by decide))
        rw [Nat.toDigits_of_base_le (by decide) (Nat.not_lt.1 hsmall), List.foldl_append,
          ih (value / 16) (by omega), List.foldl_cons, List.foldl_nil, hlast, Option.getD_some]
        omega

/-- Nothing comes next, or a colon does. -/
def EndsGroup (rest : List Char) : Prop :=
  ∀ c, rest.head? = some c → c = ':'

theorem endsGroup_nil : EndsGroup [] :=
  fun _ h => nomatch h

theorem endsGroup_colon (rest : List Char) : EndsGroup (':' :: rest) :=
  fun _ h => (Option.some.inj h).symm

theorem readGroup_append (group : UInt16) {rest : List Char} (h : EndsGroup rest) :
    readGroup (hexChars group ++ rest) = some (group, rest) := by
  have hsize : group.toNat < 65536 := group.toNat_lt
  have hlength : (hexChars group).length ≤ 4 :=
    (Nat.length_toDigits_le_iff (by decide) (by decide)).2 (by omega)
  have hnonempty : (hexChars group).isEmpty = false :=
    List.isEmpty_eq_false_iff.2 Nat.toDigits_ne_nil
  have htake : (hexChars group ++ rest).takeWhile (fun c => (hexDigit? c).isSome) =
      hexChars group := by
    rw [List.takeWhile_append_of_pos fun _ hc => isSome_hexDigit?_of_mem hc]
    cases rest with
    | nil => exact List.append_nil _
    | cons c tail =>
        rw [h c rfl, List.takeWhile_cons_of_neg (by decide), List.append_nil]
  rw [readGroup, htake, hnonempty, decide_eq_false (Nat.not_lt.2 hlength)]
  simp only [List.drop_left, foldl_hexChars, UInt16.ofNat_toNat]
  rfl

theorem not_mem_hexChars (group : UInt16) : '.' ∉ hexChars group := by
  intro hmem
  exact absurd (isSome_hexDigit?_of_mem hmem) (by decide)

/-- A group is not taken for a byte. -/
theorem readIPv4_group (group : UInt16) {rest : List Char} (h : EndsGroup rest) :
    readIPv4 (hexChars group ++ rest) = none := by
  refine readIPv4_eq_none ?_
  have hpoint := not_mem_hexChars group
  generalize hexChars group = chars at hpoint
  induction chars with
  | nil =>
      cases rest with
      | nil => exact nofun
      | cons c tail =>
          rw [h c rfl]
          exact nofun
  | cons c chars ih =>
      rw [List.mem_cons, not_or] at hpoint
      rw [List.cons_append, List.dropWhile_cons]
      split
      · exact ih hpoint.2
      · intro hhead
        exact hpoint.1 (Option.some.inj hhead).symm

/-! ## Groups -/

/-- Groups that stand behind another one. -/
def colonGroups (groups : List UInt16) : List Char :=
  groups.flatMap fun group => ':' :: hexChars group

theorem joinGroups_cons (group : UInt16) (groups : List UInt16) :
    IPv6.joinGroups (group :: groups) = hexChars group ++ colonGroups groups := by
  induction groups generalizing group with
  | nil => exact (List.append_nil _).symm
  | cons next rest ih =>
      rw [IPv6.joinGroups, ih next, colonGroups, colonGroups, List.flatMap_cons, List.cons_append]
      exact nofun

theorem endsGroup_colonGroups (groups : List UInt16) {rest : List Char} (h : EndsGroup rest) :
    EndsGroup (colonGroups groups ++ rest) := by
  cases groups with
  | nil => exact h
  | cons group groups => exact endsGroup_colon _

theorem readIPv4_of_endsGroup {text : List Char} (h : EndsGroup text) : readIPv4 text = none := by
  cases text with
  | nil => exact readIPv4_eq_none nofun
  | cons c rest =>
      rw [h c rfl]
      exact readIPv4_eq_none nofun

theorem readGroup_of_endsGroup {text : List Char} (h : EndsGroup text) : readGroup text = none := by
  cases text with
  | nil => rfl
  | cons c rest =>
      rw [h c rfl]
      rfl

theorem readIPv4_joinGroups (groups : List UInt16) {rest : List Char} (h : EndsGroup rest) :
    readIPv4 (IPv6.joinGroups groups ++ rest) = none := by
  cases groups with
  | nil => exact readIPv4_of_endsGroup h
  | cons group groups =>
      rw [joinGroups_cons, List.append_assoc]
      exact readIPv4_group group (endsGroup_colonGroups groups h)

/-- No group more: none begins here, nor behind the colon that is due. -/
theorem readGroups_stop {first : Bool} {text : List Char}
    (h : ∀ inner, (if first then some text else readMark ':' text) = some inner →
      EndsGroup inner) (limit : Nat) :
    readGroups first text limit = ⟨[], false, text⟩ := by
  cases limit with
  | zero => rfl
  | succ limit =>
      rw [readGroups]
      cases hmark : if first then some text else readMark ':' text with
      | none => rfl
      | some inner =>
          have hinner := h inner hmark
          simp only [readIPv4_of_endsGroup hinner, ite_self, readGroup_of_endsGroup hinner]

theorem readGroups_nil (first : Bool) (limit : Nat) :
    readGroups first [] limit = ⟨[], false, []⟩ := by
  refine readGroups_stop ?_ limit
  intro inner hinner
  cases first with
  | false => cases hinner
  | true =>
      cases hinner
      exact endsGroup_nil

theorem readGroups_gap (first : Bool) (rest : List Char) (limit : Nat) :
    readGroups first (':' :: ':' :: rest) limit = ⟨[], false, ':' :: ':' :: rest⟩ := by
  refine readGroups_stop ?_ limit
  intro inner hinner
  cases first <;> cases hinner <;> exact endsGroup_colon _

/-- One group more, and then the others. -/
theorem readGroups_group (group : UInt16) {first : Bool} {text rest : List Char}
    (htext : (if first then some text else readMark ':' text) = some (hexChars group ++ rest))
    (h : EndsGroup rest) (limit : Nat) :
    readGroups first text (limit + 1) =
      { readGroups false rest limit with
        groups := group :: (readGroups false rest limit).groups } := by
  rw [readGroups, htext]
  simp only [readIPv4_group group h, ite_self, readGroup_append group h]

theorem readGroups_colonGroups {groups : List UInt16} {rest : List Char} (h : EndsGroup rest)
    {limit : Nat} (hlimit : groups.length ≤ limit)
    (hstop : readGroups false rest (limit - groups.length) = ⟨[], false, rest⟩) :
    readGroups false (colonGroups groups ++ rest) limit = ⟨groups, false, rest⟩ := by
  induction groups generalizing limit with
  | nil => exact hstop
  | cons group groups ih =>
      obtain ⟨limit, rfl⟩ := Nat.exists_eq_succ_of_ne_zero (Nat.ne_of_gt (Nat.zero_lt_of_lt hlimit))
      rw [List.length_cons, Nat.succ_eq_add_one, Nat.add_sub_add_right] at hstop
      have hothers := ih (Nat.le_of_succ_le_succ hlimit) hstop
      have htext : colonGroups (group :: groups) ++ rest =
          ':' :: (hexChars group ++ (colonGroups groups ++ rest)) := by
        simp [colonGroups]
      rw [htext, readGroups_group group rfl (endsGroup_colonGroups groups h), hothers]

/-- As many groups as were written, if the reader finds no other behind them. -/
theorem readGroups_joinGroups {groups : List UInt16} {rest : List Char} (h : EndsGroup rest)
    {limit : Nat} (hlimit : groups.length ≤ limit)
    (hstop : ∀ first, readGroups first rest (limit - groups.length) = ⟨[], false, rest⟩) :
    readGroups true (IPv6.joinGroups groups ++ rest) limit = ⟨groups, false, rest⟩ := by
  cases groups with
  | nil => exact hstop true
  | cons group groups =>
      obtain ⟨limit, rfl⟩ := Nat.exists_eq_succ_of_ne_zero (Nat.ne_of_gt (Nat.zero_lt_of_lt hlimit))
      have hothers := readGroups_colonGroups h (Nat.le_of_succ_le_succ hlimit)
        (by simpa using hstop false)
      rw [joinGroups_cons, List.append_assoc,
        readGroups_group group rfl (endsGroup_colonGroups groups h), hothers]

end Address

namespace IPv6

/-! ## Zeros left out -/

/-- Every group of the run is zero. -/
def Run.IsZeros (run : Run) (groups : List UInt16) : Prop :=
  ∀ index, run.start ≤ index → index < run.start + run.length → groups[index]? = some 0

theorem Run.isZeros_empty (start : Nat) (groups : List UInt16) :
    Run.IsZeros ⟨start, 0⟩ groups :=
  fun _ hstart hend => absurd hend (Nat.not_lt.2 hstart)

theorem Run.IsZeros.le_length {run : Run} {groups : List UInt16} (h : run.IsZeros groups)
    (hpos : 0 < run.length) : run.start + run.length ≤ groups.length := by
  have hlast := h (run.start + run.length - 1) (by omega) (by omega)
  obtain ⟨hlt, -⟩ := List.getElem?_eq_some_iff.1 hlast
  omega

/-- What stands before the run and behind it, with the zeros put back. -/
theorem Run.IsZeros.put_back {run : Run} {groups : List UInt16} (h : run.IsZeros groups) :
    groups.take run.start ++ List.replicate run.length 0 ++
      groups.drop (run.start + run.length) = groups := by
  have hzeros : (groups.drop run.start).take run.length = List.replicate run.length 0 := by
    refine List.ext_getElem? fun index => ?_
    rw [List.getElem?_take, List.getElem?_drop, List.getElem?_replicate]
    split
    next hlt => exact h _ (Nat.le_add_right _ _) (Nat.add_lt_add_left hlt _)
    next => rfl
  rw [List.append_assoc, ← hzeros, ← List.drop_drop, List.take_append_drop,
    List.take_append_drop]

/-- The open run with the zero at `index`, where the run ends unless it is empty. -/
def Run.withZero (run : Run) (index : Nat) : Run :=
  if run.length = 0 then ⟨index, 1⟩ else ⟨run.start, run.length + 1⟩

theorem Run.end_withZero {run : Run} {index : Nat}
    (hends : run.length = 0 ∨ run.start + run.length = index) :
    (run.withZero index).start + (run.withZero index).length = index + 1 := by
  rw [Run.withZero]
  split
  next => rfl
  next hpos => exact congrArg Nat.succ (hends.resolve_left hpos)

theorem Run.IsZeros.withZero {run : Run} {groups : List UInt16} (h : run.IsZeros groups)
    {index : Nat} (hends : run.length = 0 ∨ run.start + run.length = index)
    (hzero : groups[index]? = some 0) : (run.withZero index).IsZeros groups := by
  intro place hstart hend
  rw [Run.end_withZero hends] at hend
  obtain hlt | rfl := Nat.lt_or_eq_of_le (Nat.le_of_lt_succ hend)
  · rw [Run.withZero] at hstart
    split at hstart
    next => exact absurd hlt (Nat.not_lt.2 hstart)
    next hpos =>
      rw [← hends.resolve_left hpos] at hlt
      exact h place hstart hlt
  · exact hzero

/-- By induction on the groups to come: the longest run so far is one of zeros, and so is the open
one, which ends where the walk stands. -/
theorem longestZeros_isZeros {groups : List UInt16} (done rest : List UInt16)
    (hgroups : done ++ rest = groups) {current longest : Run} (hcurrent : current.IsZeros groups)
    (hends : current.length = 0 ∨ current.start + current.length = done.length)
    (hlongest : longest.IsZeros groups) :
    (longestZeros done.length current longest rest).IsZeros groups := by
  induction rest generalizing done current longest with
  | nil => exact hlongest
  | cons group rest ih =>
      have hnext : done ++ [group] ++ rest = groups := by
        rw [← hgroups, List.append_assoc]
        rfl
      have hlength : (done ++ [group]).length = done.length + 1 := List.length_append
      have hgroup : groups[done.length]? = some group := by
        rw [← hgroups, List.getElem?_append_right (Nat.le_refl _), Nat.sub_self]
        rfl
      rw [longestZeros, ← hlength]
      by_cases hzero : group = 0
      · rw [hzero] at hgroup
        have hzeros := hcurrent.withZero hends hgroup
        have hbest : (if longest.length < (current.withZero done.length).length then
            current.withZero done.length else longest).IsZeros groups := by
          split
          next => exact hzeros
          next => exact hlongest
        rw [if_pos hzero]
        exact ih _ hnext hzeros (Or.inr ((Run.end_withZero hends).trans hlength.symm)) hbest
      · rw [if_neg hzero]
        exact ih _ hnext (Run.isZeros_empty 0 groups) (Or.inl rfl) hlongest

/-- Outside the mapped range all groups are written, or all but a run of zeros. -/
theorem chars_of_mapped?_eq_none {address : IPv6} (h : address.mapped? = none) :
    address.chars = joinGroups address.groups.toList ∨
      ∃ run : Run, run.IsZeros address.groups.toList ∧ 1 < run.length ∧
        address.chars = joinGroups (address.groups.toList.take run.start) ++
          ':' :: ':' :: joinGroups (address.groups.toList.drop (run.start + run.length)) := by
  have hzeros : (longestZeros 0 ⟨0, 0⟩ ⟨0, 0⟩ address.groups.toList).IsZeros
      address.groups.toList :=
    longestZeros_isZeros [] _ rfl (Run.isZeros_empty 0 _) (Or.inl rfl) (Run.isZeros_empty 0 _)
  rw [chars, h]
  by_cases hlong : 1 < (longestZeros 0 ⟨0, 0⟩ ⟨0, 0⟩ address.groups.toList).length
  · exact Or.inr ⟨_, hzeros, hlong, if_pos hlong⟩
  · exact Or.inl (if_neg hlong)

/-! ## The mapped range -/

theorem toUInt8_shiftRight (high low : UInt8) :
    ((high.toUInt16 * 256 + low.toUInt16) >>> 8).toUInt8 = high := by
  have hhigh := high.toNat_lt
  have hlow := low.toNat_lt
  rw [← UInt8.toNat_inj]
  simp [Nat.shiftRight_eq_div_pow]
  omega

theorem toUInt8_add (high low : UInt8) :
    (high.toUInt16 * 256 + low.toUInt16).toUInt8 = low := by
  rw [← UInt8.toNat_inj]
  simp

theorem toUInt16_add (group : UInt16) :
    (group >>> 8).toUInt8.toUInt16 * 256 + group.toUInt8.toUInt16 = group := by
  have hgroup := group.toNat_lt
  rw [← UInt16.toNat_inj]
  simp [Nat.shiftRight_eq_div_pow]
  omega

theorem mapped?_eq_some_iff {address : IPv6} {inner : IPv4} :
    address.mapped? = some inner ↔ address = ofIPv4 inner := by
  constructor
  · intro h
    rw [mapped?] at h
    split at h
    next high low hgroups =>
      obtain ⟨groups⟩ := address
      cases h
      simp only [ofIPv4, toUInt16_add]
      exact congrArg IPv6.mk (Vector.toList_inj.1 hgroups)
    next => cases h
  · rintro rfl
    have hgroups : (ofIPv4 inner).groups.toList = 0 :: 0 :: 0 :: 0 :: 0 :: 0xffff :: inner.groups :=
      rfl
    rw [mapped?, hgroups, IPv4.groups]
    simp only [toUInt8_shiftRight, toUInt8_add]

end IPv6

namespace Address

/-! ## Whole addresses -/

theorem ofGroups?_toList (address : IPv6) : ofGroups? address.groups.toList = some address := by
  rw [ofGroups?, dif_pos (by simp)]
  rfl

theorem readIPv6_of_gap {text rest : List Char} {front : List UInt16} {back : GroupRun}
    {address : IPv6} (hfront : readGroups true text 8 = ⟨front, false, ':' :: ':' :: rest⟩)
    (hlength : front.length ≠ 8) (hback : readGroups true rest (7 - front.length) = back)
    (hgroups : front ++ List.replicate (8 - front.length - back.groups.length) 0 ++ back.groups =
      address.groups.toList) :
    readIPv6 text = some (address, back.rest) := by
  rw [readIPv6, hfront]
  simp only [hlength, if_false, Bool.false_eq_true, readMark, if_true, Option.bind_eq_bind,
    Option.bind_some, hback, hgroups, ofGroups?_toList]
  rfl

theorem readIPv6_mapped (inner : IPv4) :
    readIPv6 ("::ffff:".toList ++ inner.chars) = some (.ofIPv4 inner, []) := by
  have htext : "::ffff:".toList ++ inner.chars =
      ':' :: ':' :: (hexChars 0xffff ++ ':' :: inner.chars) := rfl
  have hinner : readGroups false (':' :: inner.chars) 6 = ⟨inner.groups, true, []⟩ := by
    simp [readGroups, readMark, readIPv4_chars]
  have hback : readGroups true (hexChars 0xffff ++ ':' :: inner.chars) 7 =
      ⟨0xffff :: inner.groups, true, []⟩ := by
    rw [readGroups_group 0xffff rfl (endsGroup_colon _), hinner]
  rw [htext]
  exact readIPv6_of_gap (readGroups_gap true _ 8) (by decide) hback rfl

theorem readIPv6_gap {front back : List UInt16} {address : IPv6}
    (hlength : front.length + back.length ≤ 7)
    (hgroups : front ++ List.replicate (8 - front.length - back.length) 0 ++ back =
      address.groups.toList) :
    readIPv6 (IPv6.joinGroups front ++ ':' :: ':' :: IPv6.joinGroups back) =
      some (address, []) := by
  have hfront : readGroups true (IPv6.joinGroups front ++ ':' :: ':' :: IPv6.joinGroups back) 8 =
      ⟨front, false, ':' :: ':' :: IPv6.joinGroups back⟩ :=
    readGroups_joinGroups (endsGroup_colon _) (by omega) fun first => readGroups_gap first _ _
  have hback : readGroups true (IPv6.joinGroups back ++ []) (7 - front.length) =
      ⟨back, false, []⟩ :=
    readGroups_joinGroups endsGroup_nil (by omega) fun first => readGroups_nil first _
  rw [List.append_nil] at hback
  exact readIPv6_of_gap hfront (by omega) hback hgroups

theorem readIPv6_groups (address : IPv6) :
    readIPv6 (IPv6.joinGroups address.groups.toList) = some (address, []) := by
  have hlength : address.groups.toList.length = 8 := Vector.length_toList
  have hfront : readGroups true (IPv6.joinGroups address.groups.toList ++ []) 8 =
      ⟨address.groups.toList, false, []⟩ :=
    readGroups_joinGroups endsGroup_nil (Nat.le_of_eq hlength) fun first => readGroups_nil first _
  rw [List.append_nil] at hfront
  rw [readIPv6, hfront]
  simp only [hlength, if_true, ofGroups?_toList]
  rfl

theorem readIPv6_chars (address : IPv6) : readIPv6 address.chars = some (address, []) := by
  cases hmapped : address.mapped? with
  | some inner =>
      rw [IPv6.chars, hmapped, IPv6.mapped?_eq_some_iff.1 hmapped]
      exact readIPv6_mapped inner
  | none =>
      obtain hchars | ⟨run, hzeros, hlong, hchars⟩ := IPv6.chars_of_mapped?_eq_none hmapped
      · rw [hchars]
        exact readIPv6_groups address
      · have hput := hzeros.put_back
        have hend := hzeros.le_length (Nat.lt_of_succ_lt hlong)
        have hlength : address.groups.toList.length = 8 := Vector.length_toList
        rw [hlength] at hend
        have hfront : (address.groups.toList.take run.start).length = run.start := by
          rw [List.length_take, hlength]
          omega
        have hback : (address.groups.toList.drop (run.start + run.length)).length =
            8 - (run.start + run.length) := by
          rw [List.length_drop, hlength]
        have hrun : 8 - run.start - (8 - (run.start + run.length)) = run.length := by omega
        rw [hchars]
        refine readIPv6_gap (by omega) ?_
        rw [hfront, hback, hrun]
        exact hput

/-- An address of eight groups is not taken for one of four bytes. -/
theorem readIPv4_IPv6_chars (address : IPv6) : readIPv4 address.chars = none := by
  cases hmapped : address.mapped? with
  | some inner =>
      rw [IPv6.chars, hmapped]
      exact readIPv4_of_endsGroup (endsGroup_colon _)
  | none =>
      obtain hchars | ⟨run, -, -, hchars⟩ := IPv6.chars_of_mapped?_eq_none hmapped
      · rw [hchars, ← List.append_nil (IPv6.joinGroups _)]
        exact readIPv4_joinGroups _ endsGroup_nil
      · rw [hchars]
        exact readIPv4_joinGroups _ (endsGroup_colon _)

/-- Every address is denoted by its text. -/
theorem ofText?_toText (address : Address) : ofText? address.toText = some address := by
  cases address with
  | v4 address => rw [ofText?, toText, String.toList_ofList, readIPv4_chars]
  | v6 address =>
      rw [ofText?, toText, String.toList_ofList, readIPv4_IPv6_chars, readIPv6_chars]

end Address

end FoodOrdering
