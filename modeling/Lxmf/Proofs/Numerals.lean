/-
Numbers and their text: what is printed reads back.

# Doubles

`display` searches the shortest decimal that rounds to the double it is
given and `fromStr` rounds the decimal it reads. The round trip needs
two facts: rounding leaves a double alone (`nearest_of_isDouble`), and
the search ends at a decimal that rounds to it, at the latest where the
decimal is exact (`shortest_rounds`).

# File names

The name of an entry's file has three parts without an underscore, so
it splits into them; its id, time and stamp value read back from them
(`parse_filename`). A time that is not finite and positive is printed
as well, but its name does not parse.
-/
import Mathlib.Algebra.Order.Field.Power
import Mathlib.Data.List.TakeWhile
import Mathlib.Tactic.FieldSimp
import Mathlib.Tactic.Linarith
import Mathlib.Tactic.Ring
import Lxmf.Restore

namespace Lxmf

namespace F64

-- ============================================================== doubles

theorem exp2_eq (z : ℤ) : exp2 z = (2 : ℚ) ^ z := by
  unfold exp2
  split
  case isTrue h =>
    obtain ⟨n, rfl⟩ := Int.eq_ofNat_of_zero_le h
    simp
  case isFalse h =>
    obtain ⟨n, rfl⟩ : ∃ n : ℕ, z = -(n : ℤ) := ⟨(-z).toNat, by omega⟩
    simp

theorem exp10_eq (z : ℤ) : exp10 z = (10 : ℚ) ^ z := by
  unfold exp10
  split
  case isTrue h =>
    obtain ⟨n, rfl⟩ := Int.eq_ofNat_of_zero_le h
    simp
  case isFalse h =>
    obtain ⟨n, rfl⟩ : ∃ n : ℕ, z = -(n : ℤ) := ⟨(-z).toNat, by omega⟩
    simp

/-- The value is one a double has: a mantissa of 53 bits and an exponent
in range, or no number at all. -/
def IsDouble : F64 → Prop
  | .fin q => ∃ m e : ℤ, |m| < 2 ^ 53 ∧ -1074 ≤ e ∧ e ≤ 971
      ∧ q = m * (2 : ℚ) ^ e
  | _ => True

/-- The distance of the doubles is told by a power of two below `q`. -/
theorem ulp_eq {q : ℚ} (hq : 0 < q) :
    ∃ e : ℤ, (2 : ℚ) ^ e ≤ q
      ∧ ulp q = (2 : ℚ) ^ (if e < -1022 then -1074 else e - 52) := by
  unfold ulp
  dsimp only
  generalize ha : q.num.natAbs.log2 = a
  generalize hb : q.den.log2 = b
  refine ⟨_, ?_, exp2_eq _⟩
  split
  case isTrue h =>
    rw [← exp2_eq]
    exact h
  case isFalse =>
    have hnum : (2 : ℚ) ^ a ≤ q.num := by
      have hne : q.num.natAbs ≠ 0 := by
        rw [Int.natAbs_ne_zero]
        exact (Rat.num_pos.mpr hq).ne'
      have hle : (2 ^ a : ℕ) ≤ q.num.natAbs := by
        rw [← ha]
        exact Nat.log2_self_le hne
      have habs : (q.num.natAbs : ℤ) = q.num :=
        Int.natAbs_of_nonneg (Rat.num_pos.mpr hq).le
      rw [← habs]
      exact_mod_cast hle
    have hden : (q.den : ℚ) ≤ 2 ^ (b + 1) := by
      have hlt : q.den < 2 ^ (b + 1) := by
        rw [← hb]
        exact Nat.lt_log2_self
      exact_mod_cast hlt.le
    have hpos : (0 : ℚ) < q.den := by exact_mod_cast q.den_pos
    calc (2 : ℚ) ^ ((a : ℤ) - b - 1)
        = (2 : ℚ) ^ a / 2 ^ (b + 1) := by
          rw [sub_sub, zpow_sub₀ (by norm_num), zpow_natCast]
          norm_cast
      _ ≤ q.num / q.den := by gcongr
      _ = q := Rat.num_div_den q

theorem ulp_pos {q : ℚ} (hq : 0 < q) : 0 < ulp q := by
  obtain ⟨e, _, hulp⟩ := ulp_eq hq
  rw [hulp]
  exact zpow_pos (by norm_num) _

/-- A number of whole units is its own nearest double. -/
theorem nearest_of_multiple {q : ℚ} (hq : 0 < q) {n : ℤ}
    (h : q = n * ulp q) : nearest q = q := by
  have hdiv : q / ulp q = n := by
    rw [div_eq_iff (ulp_pos hq).ne']
    exact h
  unfold nearest
  dsimp only
  rw [hdiv, Int.floor_intCast, sub_self, if_neg, ← h]
  norm_num

/-- Rounding leaves a double alone. -/
theorem nearest_of_isDouble {q : ℚ} (hq : 0 < q)
    (h : (F64.fin q).IsDouble) : nearest q = q := by
  obtain ⟨m, e, hm, hlo, hhi, heq⟩ := h
  obtain ⟨e', hle, hulp⟩ := ulp_eq hq
  generalize hu : (if e' < -1022 then (-1074 : ℤ) else e' - 52) = u at hulp
  -- the unit is no coarser than the double's own exponent
  have hu_le : u ≤ e := by
    rw [← hu]
    split
    case isTrue => exact hlo
    case isFalse =>
      by_contra hlt
      have hm' : (m : ℚ) < 2 ^ (53 : ℤ) := by
        have hlt' : m < 2 ^ 53 := lt_of_le_of_lt (le_abs_self m) hm
        exact_mod_cast hlt'
      have hchain : q < (2 : ℚ) ^ e' := by
        calc q = m * (2 : ℚ) ^ e := heq
          _ < (2 : ℚ) ^ (53 : ℤ) * (2 : ℚ) ^ e := by
            exact mul_lt_mul_of_pos_right hm' (zpow_pos (by norm_num) e)
          _ = (2 : ℚ) ^ (53 + e) := (zpow_add₀ (by norm_num) 53 e).symm
          _ ≤ (2 : ℚ) ^ e' := by
            exact zpow_le_zpow_right₀ (by norm_num) (by omega)
      exact absurd hle (not_le.mpr hchain)
  obtain ⟨k, hk⟩ := Int.eq_ofNat_of_zero_le (sub_nonneg.mpr hu_le)
  refine nearest_of_multiple hq (n := m * 2 ^ k) ?_
  rw [hulp, heq]
  have hsplit : (2 : ℚ) ^ e = 2 ^ k * (2 : ℚ) ^ u := by
    rw [← zpow_natCast, ← zpow_add₀ (by norm_num)]
    congr 1
    omega
  rw [hsplit]
  push_cast
  ring

theorem IsDouble.lt_exp2 {q : ℚ} (h : (F64.fin q).IsDouble) :
    q < exp2 1024 := by
  obtain ⟨m, e, hm, _, hhi, rfl⟩ := h
  have hm' : (m : ℚ) < 2 ^ (53 : ℤ) := by
    have hlt : m < 2 ^ 53 := lt_of_le_of_lt (le_abs_self m) hm
    exact_mod_cast hlt
  rw [exp2_eq]
  calc (m : ℚ) * (2 : ℚ) ^ e
      < (2 : ℚ) ^ (53 : ℤ) * (2 : ℚ) ^ e :=
        mul_lt_mul_of_pos_right hm' (zpow_pos (by norm_num) e)
    _ = (2 : ℚ) ^ (53 + e) := (zpow_add₀ (by norm_num) 53 e).symm
    _ ≤ (2 : ℚ) ^ (1024 : ℤ) :=
        zpow_le_zpow_right₀ (by norm_num) (by omega)

-- ======================================================= the shortest text

/-- The search ends at a decimal that rounds as `q` does, if it gets to
where `q` is exact. -/
theorem shortest_rounds {q : ℚ} (hq : 0 < q) {fuel : Nat} {places : ℤ}
    (h : ∃ p k : ℤ, places ≤ p ∧ p < places + fuel ∧ q * exp10 p = k) :
    0 ≤ (shortest q fuel places).1
      ∧ nearest ((shortest q fuel places).1
        / exp10 (shortest q fuel places).2) = nearest q := by
  induction fuel generalizing places with
  | zero =>
      obtain ⟨p, k, hle, hlt, _⟩ := h
      omega
  | succ fuel ih =>
      have hexp : (0 : ℚ) < exp10 places := by
        rw [exp10_eq]
        exact zpow_pos (by norm_num) places
      have hbelow : 0 ≤ ⌊q * exp10 places⌋ :=
        Int.floor_nonneg.mpr (mul_pos hq hexp).le
      unfold shortest
      dsimp only
      split
      case isTrue hfits =>
        refine ⟨by omega, ?_⟩
        exact of_decide_eq_true (Bool.and_eq_true_iff.mp hfits).2
      case isFalse =>
        split
        case isTrue hfits => exact ⟨hbelow, of_decide_eq_true hfits⟩
        case isFalse hbelow' =>
          split
          case isTrue hfits =>
            exact ⟨by omega, of_decide_eq_true hfits⟩
          case isFalse =>
            refine ih ?_
            obtain ⟨p, k, hle, hlt, hexact⟩ := h
            refine ⟨p, k, ?_, by omega, hexact⟩
            -- where the decimal is exact the search would have ended
            by_contra hp
            have hsame : p = places := by omega
            subst hsame
            refine hbelow' (decide_eq_true ?_)
            rw [hexact, Int.floor_intCast, ← hexact,
              mul_div_cancel_right₀ q hexp.ne']

/-- Every double is exact with 1074 places. -/
theorem IsDouble.exact {q : ℚ} (h : (F64.fin q).IsDouble) :
    ∃ k : ℤ, q * exp10 1074 = k := by
  obtain ⟨m, e, _, hlo, _, rfl⟩ := h
  obtain ⟨n, hn⟩ := Int.eq_ofNat_of_zero_le (by omega : 0 ≤ e + 1074)
  refine ⟨m * 2 ^ n * 5 ^ 1074, ?_⟩
  have hten : exp10 1074 = (2 : ℚ) ^ (1074 : ℤ) * 5 ^ (1074 : ℤ) := by
    rw [exp10_eq, ← mul_zpow]
    norm_num
  have htwo : (2 : ℚ) ^ e * (2 : ℚ) ^ (1074 : ℤ) = 2 ^ n := by
    rw [← zpow_add₀ (by norm_num), hn, zpow_natCast]
  rw [Int.cast_mul, Int.cast_mul, Int.cast_pow, Int.cast_pow,
    Int.cast_ofNat, Int.cast_ofNat]
  calc (m : ℚ) * (2 : ℚ) ^ e * exp10 1074
      = m * ((2 : ℚ) ^ e * (2 : ℚ) ^ (1074 : ℤ)) * 5 ^ (1074 : ℤ) := by
        rw [hten]
        ring
    _ = m * 2 ^ n * 5 ^ 1074 := by
        rw [htwo, zpow_ofNat]

/-- The digits of a double round to it. -/
theorem shortest_isDouble {q : ℚ} (hq : 0 < q)
    (h : (F64.fin q).IsDouble) :
    0 ≤ (shortest q 1400 (-309)).1
      ∧ nearest ((shortest q 1400 (-309)).1
        / exp10 (shortest q 1400 (-309)).2) = q := by
  obtain ⟨k, hk⟩ := h.exact
  obtain ⟨hpos, hrounds⟩ := @shortest_rounds q hq 1400 (-309)
    ⟨1074, k, by omega, by omega, hk⟩
  rw [nearest_of_isDouble hq h] at hrounds
  exact ⟨hpos, hrounds⟩

-- ======================================================== reading it back

theorem ofDecimal_eq {q : ℚ} (h : (F64.fin q).IsDouble) {digits : Nat}
    {places : ℤ} (hrounds : nearest (digits / exp10 places) = q) :
    ofDecimal digits places = .fin q := by
  unfold ofDecimal
  dsimp only
  rw [hrounds, if_neg (not_le.mpr h.lt_exp2)]

/-- A number without a point. -/
theorem readNumber_whole {w : List Char} (h : ∀ c ∈ w, c.isDigit = true)
    (hne : w ≠ []) :
    readNumber w = some (ofDecimal (Nat.ofDigitChars 10 w 0) 0) := by
  have htake := List.takeWhile_eq_self_iff.mpr h
  have hdrop := List.dropWhile_eq_nil_iff.mpr h
  unfold readNumber
  dsimp only
  rw [htake, hdrop]
  simp only [splitFraction, hne, false_and, if_false, readExponent,
    List.append_nil]
  rfl

/-- A number with a point. -/
theorem readNumber_point {w f : List Char}
    (hw : ∀ c ∈ w, c.isDigit = true) (hne : w ≠ [])
    (hf : ∀ c ∈ f, c.isDigit = true) :
    readNumber (w ++ '.' :: f)
      = some (ofDecimal (Nat.ofDigitChars 10 (w ++ f) 0) f.length) := by
  have htake : (w ++ '.' :: f).takeWhile Char.isDigit = w := by
    rw [List.takeWhile_append_of_pos hw]
    exact List.append_nil w
  have hdrop : (w ++ '.' :: f).dropWhile Char.isDigit = '.' :: f :=
    List.dropWhile_append_of_pos hw
  have hftake := List.takeWhile_eq_self_iff.mpr hf
  have hfdrop := List.dropWhile_eq_nil_iff.mpr hf
  unfold readNumber
  dsimp only
  rw [htake, hdrop]
  simp only [splitFraction, hftake, hfdrop, hne, false_and, if_false,
    readExponent, sub_zero]

/-- Text that starts with a digit has no sign. -/
theorem fromStr_of_digit {c : Char} (h : c.isDigit = true)
    (text : List Char) : fromStr (c :: text) = readUnsigned (c :: text) := by
  unfold fromStr
  split
  case h_1 heq =>
    injection heq with hc _
    rw [hc] at h
    cases h
  case h_2 heq =>
    injection heq with hc _
    rw [hc] at h
    cases h
  case h_3 => rfl

theorem isDigit_toDigits {n : Nat} {c : Char}
    (h : c ∈ Nat.toDigits 10 n) : c.isDigit = true :=
  Nat.isDigit_of_mem_toDigits (by decide) (by decide) h

theorem toList_toString (n : Nat) :
    (toString n).toList = Nat.toDigits 10 n :=
  Nat.toList_repr

/-- Text of digits, with or without a point after the first ones. -/
theorem fromStr_of_readNumber {w rest : List Char} {v : F64}
    (hw : ∀ c ∈ w, c.isDigit = true) (hne : w ≠ [])
    (h : readNumber (w ++ rest) = some v) :
    fromStr (w ++ rest) = some v := by
  cases w with
  | nil => exact absurd rfl hne
  | cons c w =>
      rw [List.cons_append] at h ⊢
      rw [fromStr_of_digit (hw c List.mem_cons_self)]
      unfold readUnsigned
      rw [h]

/-- The digits behind the point, filled up to their number. -/
def fractionText (digits places : Nat) : List Char :=
  List.replicate (places - (Nat.toDigits 10 digits).length) '0'
    ++ Nat.toDigits 10 digits

theorem fractionText_isDigit {digits places : Nat} {c : Char}
    (h : c ∈ fractionText digits places) : c.isDigit = true := by
  rcases List.mem_append.mp h with hzero | hdigit
  · rw [List.eq_of_mem_replicate hzero]
    rfl
  · exact isDigit_toDigits hdigit

theorem length_fractionText {digits places : Nat} (hpos : 0 < places)
    (h : digits < 10 ^ places) :
    (fractionText digits places).length = places := by
  have hle := (Nat.length_toDigits_le_iff (by decide : 1 < 10) hpos).mpr h
  unfold fractionText
  rw [List.length_append, List.length_replicate]
  omega

/-- Whole part and fraction together are the digits. -/
theorem ofDigitChars_point {n places : Nat} (hpos : 0 < places) :
    Nat.ofDigitChars 10 (Nat.toDigits 10 (n / 10 ^ places)
      ++ fractionText (n % 10 ^ places) places) 0 = n := by
  have hlt : n % 10 ^ places < 10 ^ places :=
    Nat.mod_lt n (Nat.pow_pos (by decide))
  rw [Nat.ofDigitChars_append, Nat.ofDigitChars_ten_toDigits,
    Nat.ofDigitChars_eq_ofDigitChars_zero, length_fractionText hpos hlt]
  unfold fractionText
  rw [Nat.ofDigitChars_append, Nat.ofDigitChars_replicate_zero,
    Nat.mul_zero, Nat.ofDigitChars_ten_toDigits]
  exact Nat.div_add_mod n (10 ^ places)

/-- The two forms of a positive number. -/
theorem displayPositive_toList (q : ℚ) :
    (displayPositive q).toList
      = if (shortest q 1400 (-309)).2 ≤ 0 then
          Nat.toDigits 10 ((shortest q 1400 (-309)).1.toNat
            * 10 ^ (-(shortest q 1400 (-309)).2).toNat)
        else
          Nat.toDigits 10 ((shortest q 1400 (-309)).1.toNat
              / 10 ^ (shortest q 1400 (-309)).2.toNat)
            ++ '.' :: fractionText ((shortest q 1400 (-309)).1.toNat
              % 10 ^ (shortest q 1400 (-309)).2.toNat)
              (shortest q 1400 (-309)).2.toNat := by
  unfold displayPositive fractionText
  generalize shortest q 1400 (-309) = found
  obtain ⟨digits, places⟩ := found
  dsimp only
  split
  case isTrue => exact toList_toString _
  case isFalse =>
    rw [String.toList_append, String.toList_append, String.toList_append,
      toList_toString, toList_toString, String.toList_ofList,
      ← String.length_toList, toList_toString]
    simp

/-- What is printed of a positive double reads back as it. -/
theorem fromStr_displayPositive {q : ℚ} (hq : 0 < q)
    (h : (F64.fin q).IsDouble) :
    fromStr (displayPositive q).toList = some (.fin q) := by
  obtain ⟨hpos, hrounds⟩ := shortest_isDouble hq h
  rw [displayPositive_toList]
  generalize shortest q 1400 (-309) = found at hpos hrounds ⊢
  obtain ⟨digits, places⟩ := found
  dsimp only at hpos hrounds ⊢
  obtain ⟨n, rfl⟩ := Int.eq_ofNat_of_zero_le hpos
  rw [Int.toNat_natCast]
  split
  case isTrue hplaces =>
    obtain ⟨k, rfl⟩ : ∃ k : ℕ, places = -(k : ℤ) :=
      ⟨(-places).toNat, by omega⟩
    rw [neg_neg, Int.toNat_natCast]
    have hread := readNumber_whole
      (fun c => isDigit_toDigits (n := n * 10 ^ k)) Nat.toDigits_ne_nil
    rw [Nat.ofDigitChars_ten_toDigits, ofDecimal_eq h] at hread
    · rw [← List.append_nil (Nat.toDigits 10 _)] at hread ⊢
      exact fromStr_of_readNumber (fun c => isDigit_toDigits)
        Nat.toDigits_ne_nil hread
    · rw [← hrounds, exp10_eq, exp10_eq, zpow_neg, zpow_natCast]
      push_cast
      rw [div_one, div_inv_eq_mul]
  case isFalse hplaces =>
    obtain ⟨k, rfl⟩ := Int.eq_ofNat_of_zero_le (by omega : 0 ≤ places)
    rw [Int.toNat_natCast]
    have hk : 0 < k := by omega
    have hlt : n % 10 ^ k < 10 ^ k :=
      Nat.mod_lt n (Nat.pow_pos (by decide))
    have hread := readNumber_point
      (fun c => isDigit_toDigits (n := n / 10 ^ k)) Nat.toDigits_ne_nil
      (fun c => @fractionText_isDigit (n % 10 ^ k) k c)
    rw [ofDigitChars_point hk, length_fractionText hk hlt,
      ofDecimal_eq h hrounds] at hread
    exact fromStr_of_readNumber (fun c => isDigit_toDigits)
      Nat.toDigits_ne_nil hread

-- ==================================================== other times and text

/-- A time a file name may hold. -/
def positive (v : F64) : Bool := v.isFinite && (F64.fin 0).lt v

theorem positive_fin {q : ℚ} : (F64.fin q).positive = decide (0 < q) := rfl

/-- The test of `parse_propagation_entry_filename`. -/
theorem refused_iff (v : F64) :
    (!v.isFinite || v.le (.fin 0)) = !v.positive := by
  cases v with
  | nan => rfl
  | inf negative =>
      cases negative with
      | true => rfl
      | false => rfl
  | fin q =>
      rw [positive_fin]
      by_cases hq : 0 < q
      · simp [isFinite, le, hq]
      · simp [isFinite, le, hq, not_lt.mp hq]

theorem nearest_nonneg {q : ℚ} (hq : 0 ≤ q) : 0 ≤ nearest q := by
  have hulp : 0 < ulp q := by
    unfold ulp
    dsimp only
    rw [exp2_eq]
    exact zpow_pos (by norm_num) _
  have hfloor : (0 : ℚ) ≤ ⌊q / ulp q⌋ := by
    exact_mod_cast Int.floor_nonneg.mpr (div_nonneg hq hulp.le)
  unfold nearest
  dsimp only
  split
  case isTrue => exact mul_nonneg (by linarith) hulp.le
  case isFalse => exact mul_nonneg hfloor hulp.le

theorem ofDecimal_neg (digits : Nat) (places : ℤ) :
    (ofDecimal digits places).neg.positive = false := by
  unfold ofDecimal
  dsimp only
  split
  case isTrue => rfl
  case isFalse =>
    have hexp : (0 : ℚ) ≤ exp10 places := by
      rw [exp10_eq]
      exact (zpow_pos (by norm_num) places).le
    have hpos := nearest_nonneg (div_nonneg (Nat.cast_nonneg digits) hexp)
    exact decide_eq_false (not_lt.mpr (neg_nonpos.mpr hpos))

/-- Without a sign nothing negative is read. -/
theorem readUnsigned_neg {text : List Char} {v : F64}
    (h : readUnsigned text = some v) : v.neg.positive = false := by
  unfold readUnsigned at h
  split at h
  case h_1 n hn =>
    injection h with h
    subst h
    unfold readNumber at hn
    dsimp only at hn
    generalize splitFraction (text.dropWhile Char.isDigit) = parts at hn
    split at hn
    case isTrue => cases hn
    case isFalse =>
      split at hn
      case h_2 => cases hn
      case h_1 e _ =>
        injection hn with hn
        rw [← hn]
        exact ofDecimal_neg _ _
  case h_2 =>
    unfold readSpecial at h
    dsimp only at h
    split at h
    case isTrue =>
      injection h with h
      rw [← h]
      rfl
    case isFalse =>
      split at h
      case isTrue =>
        injection h with h
        rw [← h]
        rfl
      case isFalse => cases h

/-- What is printed of another time does not read as a positive one. -/
theorem fromStr_display_of_not_positive {v t : F64}
    (hv : v.positive = false) (h : fromStr v.display.toList = some t) :
    t.positive = false := by
  cases v with
  | nan =>
      have hnan : fromStr (display .nan).toList = some .nan := by decide
      rw [hnan] at h
      injection h with h
      rw [← h]
      rfl
  | inf negative =>
      have hinf : fromStr (display (.inf negative)).toList
          = some (.inf negative) := by
        cases negative with
        | true => decide
        | false => decide
      rw [hinf] at h
      injection h with h
      rw [← h]
      rfl
  | fin q =>
      have hq : ¬ 0 < q := of_decide_eq_false hv
      by_cases hne : q = 0
      · have hzero : fromStr (display (.fin 0)).toList = some (.fin 0) := by
          decide +kernel
        rw [hne, hzero] at h
        injection h with h
        rw [← h]
        rfl
      · have hdisplay : display (.fin q) = "-" ++ displayPositive (-q) := by
          unfold display
          dsimp only
          rw [if_neg hne, if_pos (lt_of_le_of_ne (not_lt.mp hq) hne)]
        rw [hdisplay, String.toList_append] at h
        have hread : (readUnsigned (displayPositive (-q)).toList).map neg
            = some t := h
        obtain ⟨u, hu, rfl⟩ := Option.map_eq_some_iff.mp hread
        exact readUnsigned_neg hu

/-- A positive double reads back. -/
theorem fromStr_display {v : F64} (h : v.IsDouble)
    (hv : v.positive = true) : fromStr v.display.toList = some v := by
  cases v with
  | nan => cases hv
  | inf negative =>
      cases negative with
      | true => cases hv
      | false => cases hv
  | fin q =>
      have hq : 0 < q := of_decide_eq_true hv
      unfold display
      dsimp only
      rw [if_neg hq.ne', if_neg (not_lt.mpr hq.le)]
      exact fromStr_displayPositive hq h

theorem underscore_displayPositive (q : ℚ) :
    '_' ∉ (displayPositive q).toList := by
  intro h
  rw [displayPositive_toList] at h
  split at h
  case isTrue => exact absurd (isDigit_toDigits h) (by decide)
  case isFalse =>
    rcases List.mem_append.mp h with hw | hf
    · exact absurd (isDigit_toDigits hw) (by decide)
    · cases hf with
      | tail _ hf => exact absurd (fractionText_isDigit hf) (by decide)

theorem underscore_display (v : F64) : '_' ∉ v.display.toList := by
  cases v with
  | nan => decide
  | inf negative =>
      cases negative with
      | true => decide
      | false => decide
  | fin q =>
      unfold display
      dsimp only
      split
      case isTrue => decide
      case isFalse =>
        split
        case isFalse => exact underscore_displayPositive q
        case isTrue =>
          intro h
          rw [String.toList_append] at h
          rcases List.mem_append.mp h with hsign | htext
          · exact absurd hsign (by decide)
          · exact underscore_displayPositive _ htext

end F64

-- ======================================================== ids and counts

theorem hexValue_hexDigit :
    ∀ n : Fin 16, hexValue (hexDigit n) = some n.val := by
  decide

theorem utf8Size_hexDigit :
    ∀ n : Fin 16, (hexDigit n).utf8Size = 1 ∧ hexDigit n ≠ '_' := by
  decide

/-- The two digits of a byte. -/
def hexPair (x : UInt8) : List Char :=
  [hexDigit (x.toNat / 16), hexDigit (x.toNat % 16)]

theorem mem_hexPair {x : UInt8} {c : Char} (h : c ∈ hexPair x) :
    ∃ n : Fin 16, c = hexDigit n := by
  have hx := x.toNat_lt
  cases h with
  | head => exact ⟨⟨x.toNat / 16, by omega⟩, rfl⟩
  | tail _ h =>
      cases h with
      | head => exact ⟨⟨x.toNat % 16, by omega⟩, rfl⟩
      | tail _ h => cases h

theorem toList_hexEncode (b : Bytes) :
    (hexEncode b).toList = b.flatMap hexPair :=
  String.toList_ofList

theorem hexDecode_hexEncode (b : Bytes) :
    hexDecode (hexEncode b).toList = some b := by
  rw [toList_hexEncode]
  induction b with
  | nil => rfl
  | cons x b ih =>
      have hx := x.toNat_lt
      have hhigh := hexValue_hexDigit ⟨x.toNat / 16, by omega⟩
      have hlow := hexValue_hexDigit ⟨x.toNat % 16, by omega⟩
      have hbyte : UInt8.ofNat (16 * (x.toNat / 16) + x.toNat % 16) = x := by
        rw [Nat.div_add_mod]
        exact UInt8.ofNat_toNat
      rw [List.flatMap_cons]
      simp only [hexPair, List.cons_append, List.nil_append, hexDecode]
      dsimp only at hhigh hlow
      rw [hhigh, hlow, ih]
      simp only [Option.bind_eq_bind, Option.bind_some]
      rw [hbyte]
      rfl

theorem strLen_hexEncode (b : Bytes) :
    strLen (hexEncode b).toList = 2 * b.length := by
  unfold strLen
  rw [toList_hexEncode]
  induction b with
  | nil => rfl
  | cons x b ih =>
      have hx := x.toNat_lt
      have hhigh := (utf8Size_hexDigit ⟨x.toNat / 16, by omega⟩).1
      have hlow := (utf8Size_hexDigit ⟨x.toNat % 16, by omega⟩).1
      dsimp only at hhigh hlow
      rw [List.flatMap_cons, List.map_append, List.sum_append, ih]
      simp only [hexPair, List.map_cons, List.map_nil, List.sum_cons,
        List.sum_nil, List.length_cons, hhigh, hlow]
      omega

theorem underscore_hexEncode (b : Bytes) : '_' ∉ (hexEncode b).toList := by
  intro h
  rw [toList_hexEncode] at h
  obtain ⟨x, _, hpair⟩ := List.mem_flatMap.mp h
  obtain ⟨n, hn⟩ := mem_hexPair hpair
  exact (utf8Size_hexDigit n).2 hn.symm

theorem parseTransientId_hexEncode (id : Hash32) :
    parseTransientId (hexEncode id.toList).toList = some id := by
  unfold parseTransientId
  rw [strLen_hexEncode, List.Vector.toList_length,
    if_pos (by decide : 2 * hashLength = 64), hexDecode_hexEncode]
  exact toFixed_toList id

theorem u32FromStr_toDigits {n : Nat} (h : n ≤ u32Max) :
    u32FromStr (Nat.toDigits 10 n) = some n := by
  have hdigits : ∀ c ∈ Nat.toDigits 10 n, c.isDigit = true :=
    fun c => F64.isDigit_toDigits
  have hall : (Nat.toDigits 10 n).all Char.isDigit = true :=
    List.all_eq_true.mpr hdigits
  have hplus : withoutPlus (Nat.toDigits 10 n) = Nat.toDigits 10 n := by
    unfold withoutPlus
    split
    case h_1 digits heq =>
      rw [heq] at hdigits
      exact absurd (hdigits '+' List.mem_cons_self) (by decide)
    case h_2 => rfl
  unfold u32FromStr
  dsimp only
  rw [hplus, if_pos ⟨Nat.toDigits_ne_nil, hall⟩,
    Nat.ofDigitChars_ten_toDigits, if_pos h]

theorem countZeroBits_le (b : Bytes) : countZeroBits b ≤ 8 * b.length := by
  induction b with
  | nil => exact le_rfl
  | cons x b ih =>
      unfold countZeroBits leadingZeros
      rw [List.length_cons]
      split
      case isTrue => omega
      case isFalse => omega

/-- The value of a stamp is a number of bits of a hash. -/
theorem PropagationEntry.stampValue_le (P : Platform)
    (entry : PropagationEntry) : entry.stampValue P ≤ u32Max := by
  unfold stampValue
  split
  case h_2 => exact Nat.zero_le _
  case h_1 value _ hstamp =>
    unfold validatePnStamp at hstamp
    dsimp only at hstamp
    split at hstamp
    case isTrue => cases hstamp
    case isFalse =>
      split at hstamp
      case h_1 => cases hstamp
      case h_2 workblock _ =>
        split at hstamp
        case isFalse => cases hstamp
        case isTrue =>
          injection hstamp with hstamp
          injection hstamp with _ hstamp
          injection hstamp with _ hstamp
          injection hstamp with hvalue _
          rw [← hvalue]
          have hbits := countZeroBits_le (fullHash P (workblock
            ++ entry.lxmData.drop (entry.lxmData.length - stampSize))).toList
          rw [List.Vector.toList_length] at hbits
          unfold u32Max
          exact le_trans hbits (by decide)

-- =========================================================== file names

/-- The id a file name starts with. -/
def filenameId (filename : String) : Option Hash32 :=
  (filename.toList.splitOn '_').head?.bind parseTransientId

theorem splitOn_filename (transientId : Hash32) (timestamp : F64)
    (stampValue : Nat) :
    (propagationEntryFilename transientId timestamp
        stampValue).toList.splitOn '_'
      = [(hexEncode transientId.toList).toList, timestamp.display.toList,
          Nat.toDigits 10 stampValue] := by
  have htext : (propagationEntryFilename transientId timestamp
      stampValue).toList
        = (hexEncode transientId.toList).toList
          ++ '_' :: (timestamp.display.toList
            ++ '_' :: Nat.toDigits 10 stampValue) := by
    unfold propagationEntryFilename
    simp only [String.toList_append, F64.toList_toString]
    simp
  rw [htext, List.splitOn_append_cons_of_beq _ _ (beq_self_eq_true '_'),
    List.splitOn_append_cons_of_beq _ _ (beq_self_eq_true '_'),
    List.splitOn_eq_singleton (underscore_hexEncode _),
    List.splitOn_eq_singleton (F64.underscore_display _),
    List.splitOn_eq_singleton Nat.underscore_not_in_toDigits]
  rfl

theorem filenameId_filename (P : Platform) (entry : PropagationEntry) :
    filenameId (entry.filename P) = some entry.transientId := by
  unfold filenameId PropagationEntry.filename
  rw [splitOn_filename]
  exact parseTransientId_hexEncode entry.transientId

/-- A name that parses starts with the id it parses to. -/
theorem filenameId_of_parse {filename : String} {transientId : Hash32}
    {timestamp : F64} {stampValue : Nat}
    (h : parsePropagationEntryFilename filename
      = some (transientId, timestamp, stampValue)) :
    filenameId filename = some transientId ∧ timestamp.positive = true := by
  unfold parsePropagationEntryFilename at h
  unfold filenameId
  split at h
  case h_2 => cases h
  case h_1 id time value hsplit =>
    rw [hsplit]
    obtain ⟨id', hid, h⟩ := Option.bind_eq_some_iff.mp h
    obtain ⟨time', htime, h⟩ := Option.bind_eq_some_iff.mp h
    split at h
    case isTrue => cases h
    case isFalse hkept =>
      obtain ⟨value', _, h⟩ := Option.bind_eq_some_iff.mp h
      injection h with h
      injection h with hid' h
      injection h with htime' _
      rw [F64.refused_iff, htime'] at hkept
      refine ⟨?_, by simpa using hkept⟩
      rw [← hid']
      exact hid

/-- The name of an entry parses to what it was made of, unless the time
is not one a name may hold. -/
theorem parse_filename (P : Platform) {entry : PropagationEntry}
    (h : entry.timestamp.IsDouble) :
    parsePropagationEntryFilename (entry.filename P)
      = if entry.timestamp.positive then
          some (entry.transientId, entry.timestamp, entry.stampValue P)
        else none := by
  unfold parsePropagationEntryFilename PropagationEntry.filename
  rw [splitOn_filename]
  dsimp only
  rw [parseTransientId_hexEncode, Option.bind_eq_bind, Option.bind_some,
    u32FromStr_toDigits (entry.stampValue_le P)]
  cases hpositive : entry.timestamp.positive with
  | true =>
      rw [F64.fromStr_display h hpositive, Option.bind_eq_bind,
        Option.bind_some, F64.refused_iff, hpositive]
      rfl
  | false =>
      cases htime : F64.fromStr entry.timestamp.display.toList with
      | none => rfl
      | some time =>
          rw [Option.bind_eq_bind, Option.bind_some, F64.refused_iff,
            F64.fromStr_display_of_not_positive hpositive htime]
          rfl

end Lxmf
