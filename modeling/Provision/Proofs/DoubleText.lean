import Provision.Proofs.DecimalDoubles
import Provision.Proofs.JsonLeaves
import Provision.Proofs.ShortestDigits

/-!
# Doubles and their texts

A reader that multiplies or divides once rounds twice, unless the significand and the power of ten
are doubles themselves. So it does for few digits near the point, and there it finds the nearest
double.

- `numberOf_eq`: a numeral of few digits is read as the double that it rounds to.
- `keepsNumber_real`: a double of few digits reads back from its text, be it written with an exponent
  or without.
-/

namespace Provision

namespace Number

/-- A numeral is read as the double that it rounds to. -/
theorem Numeral.toFloat_eq {n : Numeral} {m : Nat} {e : Int} (canonical : Canonical m e)
    (rounds : RoundsTo m e n.value) :
    n.toFloat = .ofModel (.pack (.finite (signOf n.negative) m e canonical.pos)) := by
  have magnitude : Float.ofScientific n.significand (n.scale < 0) n.scale.natAbs =
      .ofModel (.pack (.finite .positive m e canonical.pos)) := by
    apply ofScientific_eq canonical
    rw [n.signedExponent_scale]
    exact rounds
  unfold Numeral.toFloat
  cases sign : n.negative with
  | false =>
    simp only [Bool.false_eq_true, if_false]
    exact magnitude
  | true =>
    simp only [if_true]
    rw [magnitude]
    exact neg_eq canonical .positive

/-- The digits of the numeral and the power of ten that it is scaled by are doubles. -/
structure Numeral.IsExact (n : Numeral) : Prop where
  small : n.significand < 2 ^ 53
  low : -22 ≤ n.scale
  high : n.scale ≤ 22

theorem ofNat_eq_toFloat {S : Nat} (small : S < 2 ^ 53) : Float.ofNat S = S.toUInt64.toFloat := by
  rcases Nat.eq_zero_or_pos S with rfl | pos
  · decide +kernel
  · have canonical := canonical_of_small pos small
    have value := value_of_small pos small
    rw [toFloat_eq small canonical value]
    apply ofScientific_eq canonical
    rw [signedExponent, if_neg Bool.false_ne_true, Nat.cast_zero, zpow_zero, mul_one, ← value]
    exact .self ..

end Number

open Number (IsDigits digitsValue wholePart Numeral Decimal)

namespace Json

/-! ## One rounding -/

theorem power_eq : ∀ k, ∀ h : k < Float.exactlyRepresentablePowersOfTen.size,
    power k = Float.exactlyRepresentablePowersOfTen[k] := by
  decide +kernel

/-- A quotient or product of doubles that are exact is the double nearest to it. -/
theorem scaled_eq {S : Nat} {k : Int} (small : S < 2 ^ 53) (low : -22 ≤ k) (high : k ≤ 22) :
    scaled S k = Float.ofScientific S (k < 0) k.natAbs := by
  have bound : k.natAbs < Float.exactlyRepresentablePowersOfTen.size := by
    have : Float.exactlyRepresentablePowersOfTen.size = 23 := rfl
    omega
  have exact : S < 2 ^ 53 ∧ k.natAbs ≤ 22 := ⟨small, by omega⟩
  unfold Float.ofScientific
  rw [dif_pos exact, ← power_eq k.natAbs bound, ← Number.ofNat_eq_toFloat small, scaled]
  by_cases below : k < 0
  · have short : k.natAbs ≤ mostDigits := by
      rw [mostDigits]
      omega
    rw [if_pos below, decide_eq_true below, divide, if_pos short]
    rfl
  · have short : k ≤ mostDigits := by
      rw [mostDigits]
      omega
    rw [if_neg below, decide_eq_false below, if_pos short]
    rfl

/-- A numeral of few digits is read as the double that it rounds to. -/
theorem numberOf_eq {negative : Bool} {whole fraction : List Char} {exponent : Option Int}
    (exact : Numeral.IsExact ⟨negative, whole, fraction, exponent.getD 0⟩)
    (real : (fraction.isEmpty && exponent.isNone) = false) :
    numberOf negative whole fraction exponent =
      .real (Numeral.toFloat ⟨negative, whole, fraction, exponent.getD 0⟩) := by
  obtain ⟨small, low, high⟩ := exact
  have total : Nat.ofDigitChars 10 fraction (Nat.ofDigitChars 10 whole 0) < 2 ^ 53 := by
    rwa [← Nat.ofDigitChars_append]
  have first : Nat.ofDigitChars 10 whole 0 < 2 ^ 53 :=
    Nat.lt_of_le_of_lt (le_ofDigitChars ..) total
  have word : 2 ^ 53 < UInt64.size := by decide
  have scale : exponent.getD 0 + (([] : List Char).length : Int) -
      ((fraction.length - ([] : List Char).length : Nat) : Int) =
        exponent.getD 0 - fraction.length := by simp
  have rounded : scaled (Nat.ofDigitChars 10 (whole ++ fraction) 0)
      (exponent.getD 0 - fraction.length) = _ := scaled_eq small low high
  simp only [numberOf, lengthen_eq (first.trans word), lengthen_eq (total.trans word)]
  rw [← Nat.ofDigitChars_append, scale, rounded, List.isEmpty_nil, Bool.true_and, real]
  rfl

/-! ## Digits around a point -/

theorem isDigits_wholePart {s : List Char} (h : ∀ c ∈ s, c.isDigit = true) :
    IsDigits (wholePart s) := by
  cases s with
  | nil =>
    refine ⟨List.cons_ne_nil _ _, fun c hc => ?_⟩
    rw [List.mem_singleton.mp hc]
    rfl
  | cons c s => exact ⟨List.cons_ne_nil _ _, h⟩

/-- A zero where there are no digits before the point changes nothing. -/
theorem digitsValue_wholePart_append (s t : List Char) :
    digitsValue (wholePart s ++ t) = digitsValue (s ++ t) := by
  cases s with
  | nil => exact Nat.ofDigitChars_cons ..
  | cons c s => rfl

/-- Nor does a zero where there are none behind it. -/
theorem digitsValue_append_wholePart (s t : List Char) :
    (digitsValue (s ++ wholePart t) * 10 ^ (-(wholePart t).length : Int) : ℚ) =
      digitsValue (s ++ t) * 10 ^ (-t.length : Int) := by
  cases t with
  | nil =>
    have zero : digitsValue (s ++ ['0']) = 10 * digitsValue s := by
      rw [digitsValue, Nat.ofDigitChars_append, Nat.ofDigitChars_cons]
      rfl
    have one : (['0'].length : Int) = 1 := rfl
    rw [show wholePart [] = ['0'] from rfl, zero, one, List.append_nil, List.length_nil,
      Nat.cast_zero, neg_zero, zpow_zero, mul_one, zpow_neg_one]
    push_cast
    field_simp
  | cons c t => rfl

theorem isWholePart_singleton (c : Char) : isWholePart [c] = true := by
  unfold isWholePart
  split
  · rename_i none
    cases none
  · rfl
  · rename_i short many
    cases many
    exact absurd rfl short
  · rfl

theorem isWholePart_wholePart {s : List Char} (h : s.head? ≠ some '0') :
    isWholePart (wholePart s) = true := by
  cases s with
  | nil => rfl
  | cons c s =>
    unfold isWholePart
    split
    · rename_i none
      cases none
    · rfl
    · rename_i zero
      cases zero
      exact absurd rfl h
    · rfl

/-! ## Numerals behind their sign -/

theorem splitFraction?_point {fraction rest : List Char} (digits : IsDigits fraction)
    (stop : ∀ c ∈ rest.head?, c.isDigit = false) :
    splitFraction? ('.' :: (fraction ++ rest)) = some (fraction, rest) := by
  have some : fraction.isEmpty = false := by simpa using digits.1
  simp only [splitFraction?, Text.takeWhile_run digits.2 stop, Text.dropWhile_run digits.2 stop,
    some, Bool.false_eq_true, if_false]

theorem splitExponent?_mark (n : Int) :
    splitExponent? ('e' :: (if n < 0 then '-' else '+') :: Nat.toDigits 10 n.natAbs) =
      some (some n, []) := by
  have digits := Number.isDigits_toDigits n.natAbs
  have taken := List.takeWhile_eq_self_iff.mpr digits.2
  have dropped := List.dropWhile_eq_nil_iff.mpr digits.2
  have read := Number.readNatural?_toDigits n.natAbs
  by_cases below : n < 0
  · have magnitude : -Int.ofNat n.natAbs = n := by
      rw [Int.ofNat_eq_natCast]
      omega
    simp only [splitExponent?, if_pos below, Numeral.splitSign, taken, dropped, read, true_or,
      if_true, Option.map_some, magnitude]
  · have magnitude : Int.ofNat n.natAbs = n := by
      rw [Int.ofNat_eq_natCast]
      omega
    simp only [splitExponent?, if_neg below, Numeral.splitSign, taken, dropped, read, true_or,
      if_true, Option.map_some, Bool.false_eq_true, if_false, magnitude]

/-- A numeral of few digits with a fraction or an exponent is a double. -/
theorem unsigned?_real {whole behind fraction rest : List Char} {exponent : Option Int}
    (negative : Bool) (digits : ∀ c ∈ whole, c.isDigit = true) (front : isWholePart whole = true)
    (stop : ∀ c ∈ behind.head?, c.isDigit = false)
    (point : splitFraction? behind = some (fraction, rest))
    (mark : splitExponent? rest = some (exponent, []))
    (real : (fraction.isEmpty && exponent.isNone) = false)
    (exact : Numeral.IsExact ⟨negative, whole, fraction, exponent.getD 0⟩) :
    unsigned? negative (whole ++ behind) =
      some (.real (Numeral.toFloat ⟨negative, whole, fraction, exponent.getD 0⟩), []) := by
  simp only [unsigned?, Text.takeWhile_run digits stop, Text.dropWhile_run digits stop, front,
    if_true, point, mark, Option.bind_eq_bind, Option.bind_some, numberOf_eq exact real]

/-! ## The two ways to write a decimal -/

theorem digitsValue_append_zeros (s : List Char) (n : Nat) :
    digitsValue (s ++ List.replicate n '0') = digitsValue s * 10 ^ n := by
  rw [digitsValue, Nat.ofDigitChars_append, Nat.ofDigitChars_replicate_zero, Nat.mul_comm]
  rfl

/-- The digits around the point, and how many stand behind it. -/
theorem split_eq (d : Decimal) :
    digitsValue (d.split.1 ++ d.split.2) = d.significand * 10 ^ d.exponent.toNat ∧
      d.split.2.length = (-d.exponent).toNat := by
  simp only [Decimal.split]
  generalize hd : Nat.toDigits 10 d.significand ++ List.replicate d.exponent.toNat '0' = digits
  have value : digitsValue digits = d.significand * 10 ^ d.exponent.toNat := by
    rw [← hd, digitsValue_append_zeros, Number.digitsValue_toDigits]
  constructor
  · rw [List.take_append_drop, digitsValue, Nat.ofDigitChars_append,
      Nat.ofDigitChars_replicate_zero, Nat.mul_zero]
    exact value
  · simp only [List.length_drop, List.length_append, List.length_replicate]
    omega

theorem split_digits (d : Decimal) : ∀ c ∈ d.split.1 ++ d.split.2, c.isDigit = true := by
  simp only [Decimal.split, List.take_append_drop]
  intro c hc
  have zero {n : Nat} (h : c ∈ List.replicate n '0') : c.isDigit = true := by
    rw [(List.mem_replicate.mp h).2]
    rfl
  rcases List.mem_append.mp hc with padding | digits
  · exact zero padding
  · rcases List.mem_append.mp digits with digit | padding
    · exact (Number.isDigits_toDigits d.significand).2 c digit
    · exact zero padding

/-- Before the point stands no zero but in the place of no digits. -/
theorem split_front {d : Decimal} (pos : 0 < d.significand) : d.split.1.head? ≠ some '0' := by
  have first := head?_toDigits pos
  have some : Nat.toDigits 10 d.significand ≠ [] := Nat.toDigits_ne_nil
  simp only [Decimal.split]
  generalize List.replicate d.exponent.toNat '0' = zeros
  generalize Nat.toDigits 10 d.significand = digits at *
  generalize (-d.exponent).toNat = places
  rcases Nat.lt_or_ge places (digits ++ zeros).length with shorter | longer
  · have none : places - (digits ++ zeros).length = 0 := by omega
    rw [none, List.replicate_zero, List.nil_append, List.head?_take, if_neg (by omega),
      List.head?_append_of_ne_nil _ some]
    exact first
  · have all : (List.replicate (places - (digits ++ zeros).length) '0' ++
        (digits ++ zeros)).length - places = 0 := by
      rw [List.length_append, List.length_replicate]
      omega
    rw [all, List.take_zero]
    nofun

/-- The digits around the point have the value of the decimal. -/
theorem value_around_point (d : Decimal) (negative : Bool) :
    Numeral.value ⟨negative, wholePart d.split.1, wholePart d.split.2, 0⟩ = d.value := by
  obtain ⟨value, places⟩ := split_eq d
  have power := Number.zpow_eq_div (b := 10) (by decide) d.exponent
  push_cast at power
  simp only [Numeral.value, Numeral.significand, Numeral.scale, Int.zero_sub]
  change (digitsValue (wholePart d.split.1 ++ wholePart d.split.2) : ℚ) * _ = _
  rw [digitsValue_wholePart_append, digitsValue_append_wholePart, value, places, zpow_neg,
    zpow_natCast, Decimal.value, power]
  push_cast
  field_simp

/-- So have the first digit, the others behind the point, and the exponent of the first. -/
theorem value_behind_first {d : Decimal} {c : Char} {fraction : List Char}
    (written : Nat.toDigits 10 d.significand = c :: fraction) (negative : Bool) :
    Numeral.value ⟨negative, [c], fraction, d.exponent + ((c :: fraction).length : Int) - 1⟩ =
      d.value := by
  have value := Number.digitsValue_toDigits d.significand
  rw [written] at value
  have scale : d.exponent + ((c :: fraction).length : Int) - 1 - (fraction.length : Int) =
      d.exponent := by
    rw [List.length_cons]
    omega
  change (digitsValue (c :: fraction) : ℚ) *
    10 ^ (d.exponent + ((c :: fraction).length : Int) - 1 - (fraction.length : Int)) = d.value
  rw [value, scale, Decimal.value]

/-- Few digits, also where zeros are put between them and the point and one behind it. -/
def IsShort (d : Decimal) : Prop :=
  d.significand * 10 ^ (d.exponent.toNat + 1) < 2 ^ 53 ∧ -22 ≤ d.exponent ∧ d.exponent ≤ 22

instance (d : Decimal) : Decidable (IsShort d) := inferInstanceAs (Decidable (_ ∧ _ ∧ _))

theorem isExact_around_point {d : Decimal} (short : IsShort d) (negative : Bool) :
    Numeral.IsExact ⟨negative, wholePart d.split.1, wholePart d.split.2, 0⟩ := by
  obtain ⟨value, places⟩ := split_eq d
  obtain ⟨small, low, high⟩ := short
  rw [pow_succ, ← mul_assoc, ← value] at small
  have most : (wholePart d.split.2).length ≤ 22 ∧
      digitsValue (d.split.1 ++ wholePart d.split.2) ≤
        digitsValue (d.split.1 ++ d.split.2) * 10 := by
    cases behind : d.split.2 with
    | nil =>
      refine ⟨by decide, ?_⟩
      rw [List.append_nil, digitsValue, Nat.ofDigitChars_append, Nat.mul_comm]
      exact Nat.le_of_eq (Nat.ofDigitChars_cons ..)
    | cons c rest =>
      rw [behind] at places
      refine ⟨?_, Nat.le_mul_of_pos_right _ (by decide)⟩
      have same : wholePart (c :: rest) = c :: rest := rfl
      rw [same, places]
      omega
  have scale : Numeral.scale ⟨negative, wholePart d.split.1, wholePart d.split.2, 0⟩ =
      0 - ((wholePart d.split.2).length : Int) := rfl
  refine ⟨?_, ?_, ?_⟩
  · change digitsValue (wholePart d.split.1 ++ wholePart d.split.2) < 2 ^ 53
    rw [digitsValue_wholePart_append]
    exact Nat.lt_of_le_of_lt most.2 small
  · omega
  · omega

theorem isExact_behind_first {d : Decimal} (short : IsShort d) {c : Char} {fraction : List Char}
    (written : Nat.toDigits 10 d.significand = c :: fraction) (negative : Bool) :
    Numeral.IsExact ⟨negative, [c], fraction, d.exponent + ((c :: fraction).length : Int) - 1⟩ := by
  obtain ⟨small, low, high⟩ := short
  have value := Number.digitsValue_toDigits d.significand
  rw [written] at value
  have scale : Numeral.scale
      ⟨negative, [c], fraction, d.exponent + ((c :: fraction).length : Int) - 1⟩ = d.exponent := by
    change d.exponent + ((c :: fraction).length : Int) - 1 - (fraction.length : Int) = d.exponent
    rw [List.length_cons]
    omega
  refine ⟨?_, by rwa [scale], by rwa [scale]⟩
  change digitsValue (c :: fraction) < 2 ^ 53
  rw [value]
  exact Nat.lt_of_le_of_lt (Nat.le_mul_of_pos_right _ (by positivity)) small

/-- The text of a decimal of few digits is read as a numeral of its value. -/
theorem unsigned?_decimalText {d : Decimal} (pos : 0 < d.significand) (short : IsShort d)
    (negative : Bool) :
    ∃ n : Numeral, n.negative = negative ∧ n.value = d.value ∧
      unsigned? negative (decimalText d) = some (.real n.toFloat, []) := by
  unfold decimalText
  simp only
  split
  · have digits := split_digits d
    have front := isWholePart_wholePart (split_front pos)
    refine ⟨_, rfl, value_around_point d negative, ?_⟩
    have hw := isDigits_wholePart fun c hc => digits c (List.mem_append_left _ hc)
    have hf := isDigits_wholePart fun c hc => digits c (List.mem_append_right _ hc)
    have point : splitFraction? ('.' :: (wholePart d.split.2 ++ [])) =
        some (wholePart d.split.2, []) := splitFraction?_point hf nofun
    rw [List.append_nil] at point
    have behind : (wholePart d.split.2).isEmpty = false := by simpa using hf.1
    have some : ((wholePart d.split.2).isEmpty && (none : Option Int).isNone) = false := by
      rw [behind]
      rfl
    have stop : ∀ c ∈ ('.' :: wholePart d.split.2).head?, c.isDigit = false := by
      rintro _ ⟨⟩
      rfl
    have mark : splitExponent? [] = .some (none, []) := rfl
    have read := unsigned?_real negative hw.2 front stop point mark some
      (isExact_around_point short negative)
    exact read
  · have all := Number.isDigits_toDigits d.significand
    obtain ⟨c, fraction, written⟩ := List.exists_cons_of_ne_nil all.1
    have exact := isExact_behind_first short written negative
    refine ⟨_, rfl, value_behind_first written negative, ?_⟩
    rw [written] at all ⊢
    have digit : ∀ x ∈ [c], x.isDigit = true := by simpa using all.head
    have digits : ∀ x ∈ fraction, x.isDigit = true :=
      fun x hx => all.2 x (List.mem_cons_of_mem _ hx)
    generalize d.exponent + ((c :: fraction).length : Int) - 1 = first at exact ⊢
    have mark := splitExponent?_mark first
    have stop : ∀ x ∈ ('e' :: (if first < 0 then '-' else '+') ::
        Nat.toDigits 10 first.natAbs).head?, x.isDigit = false := by
      rintro _ ⟨⟩
      rfl
    have bare : splitFraction? ('e' :: (if first < 0 then '-' else '+') ::
        Nat.toDigits 10 first.natAbs) = some ([], 'e' :: (if first < 0 then '-' else '+') ::
          Nat.toDigits 10 first.natAbs) := rfl
    generalize 'e' :: (if first < 0 then '-' else '+') :: Nat.toDigits 10 first.natAbs =
      marked at mark stop bare ⊢
    -- A single digit is written without a point.
    cases fraction with
    | nil =>
      have read :=
        unsigned?_real negative digit (isWholePart_singleton c) stop bare mark rfl exact
      exact read
    | cons x rest =>
      have point := splitFraction?_point ⟨List.cons_ne_nil x rest, digits⟩ stop
      have dot : ∀ y ∈ ('.' :: (x :: rest ++ marked)).head?, y.isDigit = false := by
        rintro _ ⟨⟩
        rfl
      have read :=
        unsigned?_real negative digit (isWholePart_singleton c) dot point mark rfl exact
      exact read

/-! ## Texts of doubles -/

theorem number?_signed {s : List Char} {n : Json.Number} (negative : Bool)
    (h : unsigned? negative s = some (n, [])) :
    number? (Number.signed negative s).toList = some (n, []) := by
  have front : s.head? ≠ some '-' := by
    intro sign
    obtain ⟨r, rfl⟩ := List.head?_eq_some_iff.mp sign
    cases h
  cases negative with
  | false =>
    have text : (Number.signed false s).toList = s := String.toList_ofList
    rw [text, number?_of_unsigned front, h]
  | true =>
    have text : (Number.signed true s).toList = '-' :: s := String.toList_ofList
    rw [text, number?, h]

/-- A double whose fewest digits are few. -/
def HasShortText (x : Float) : Prop :=
  ∃ negative m e, Number.Binary.ofFloat x = .finite negative m e ∧
    (m = 0 ∨ IsShort (Number.shortest .toEven m e))

/-- **Texts of doubles.** A double whose digits are few reads back from its text. -/
theorem keepsNumber_real {x : Float} (finite : x.isFinite = true) (short : HasShortText x) :
    Codec.standard.KeepsNumber (.real x) := by
  apply keepsNumber_of_read
  change number? (realText x).toList = some (.real x, [])
  obtain ⟨negative, m, e, decoded⟩ := Number.ofFloat_of_isFinite finite
  rcases Number.eq_pack_of_ofFloat decoded with ⟨rfl, same⟩ | ⟨canonical, same⟩
  · have text : realText x = Number.signed negative ['0', '.', '0'] := by
      unfold realText
      rw [decoded]
      rfl
    have read : unsigned? negative ['0', '.', '0'] =
        some (.real (Numeral.toFloat ⟨negative, ['0'], ['0'], 0⟩), []) := by
      have number : numberOf negative ['0'] ['0'] none =
          .real (Numeral.toFloat ⟨negative, ['0'], ['0'], 0⟩) :=
        numberOf_eq (by cases negative <;> exact ⟨by decide, by decide, by decide⟩) rfl
      rw [← number]
      rfl
    have zero : Numeral.toFloat ⟨negative, ['0'], ['0'], 0⟩ = x := by
      rw [same]
      cases negative <;> decide +kernel
    rw [text, number?_signed negative read, zero]
  · have rounds := Number.shortest_roundsTo .toEven canonical
    have few : IsShort (Number.shortest .toEven m e) := by
      obtain ⟨_, _, _, again, short⟩ := short
      rw [decoded] at again
      cases again
      exact short.resolve_left canonical.pos.ne'
    have text : realText x =
        Number.signed negative (decimalText (Number.shortest .toEven m e)) := by
      unfold realText
      rw [decoded]
      cases m with
      | zero => exact absurd rfl canonical.pos.ne'
      | succ m => rfl
    have pos : 0 < (Number.shortest .toEven m e).significand :=
      Number.significand_pos canonical rounds
    obtain ⟨n, sign, value, read⟩ := unsigned?_decimalText pos few negative
    rw [← value] at rounds
    have back : n.toFloat = x := by
      rw [Numeral.toFloat_eq canonical rounds, sign, same]
    rw [text, number?_signed negative read, back]

end Json

end Provision
