import Provision.Proofs.MemoryDoubles
import Provision.Proofs.Trimming

/-!
# Signed numerals

A sign, a decimal and an exponent, against the reader of doubles, and the doubles that they are
rounded to.

- `isNumeral_iff`: the texts that are read as numerals, and what they write.
- `IsNearest.cases`, `IsRounded.nonneg_iff`: a finite double is zero or has a mantissa, and behind a
  minus only zero is not below zero.
- `readFloat?_eq_some_iff`: a finite double is read exactly from the numerals that round to it.
- `IsNumeral.exists_head`, `IsNumeral.exists_getLast`: a numeral begins, its sign apart, and ends
  with a digit or a point.
-/

namespace Provision.Number

open Float.Model (UnpackedFloat)

/-- Whether a sign is a minus. -/
inductive IsSign : List Char → Bool → Prop where
  | none : IsSign [] false
  | plus : IsSign ['+'] false
  | minus : IsSign ['-'] true

/-- Nothing, or a mark and a whole number. -/
inductive IsExponent : List Char → Int → Prop where
  | none : IsExponent [] 0
  | marked {mark : Char} {s : List Char} {e : Int} (known : mark = 'e' ∨ mark = 'E')
    (signed : IsSigned s e) : IsExponent (mark :: s) e

/-- A sign, a decimal and an exponent: whether the number is negated, and the number. -/
inductive IsNumeral : List Char → Bool → ℚ → Prop where
  | parts {sign decimal exponent : List Char} {negative : Bool} {e : Int}
    (signed : IsSign sign negative) (written : IsDecimal decimal) (scaled : IsExponent exponent e) :
    IsNumeral (sign ++ decimal ++ exponent) negative (decimalValue decimal * 10 ^ e)

/-! ## Signs and exponents -/

theorem splitSign_cons {sign rest : List Char} {negative : Bool} {c : Char}
    (h : IsSign sign negative) (unsigned : c ≠ '+' ∧ c ≠ '-') :
    Numeral.splitSign (sign ++ c :: rest) = (negative, c :: rest) := by
  cases h with
  | none =>
    rw [List.nil_append]
    unfold Numeral.splitSign
    split
    · rename_i minus
      exact absurd (List.cons.inj minus).1 unsigned.2
    · rename_i plus
      exact absurd (List.cons.inj plus).1 unsigned.1
    · rfl
  | plus => rfl
  | minus => rfl

theorem unsigned_of_numeric {c : Char} (h : c.isDigit = true ∨ c = '.') : c ≠ '+' ∧ c ≠ '-' := by
  constructor <;> rintro rfl <;> rcases h with digit | point <;> contradiction

theorem exists_sign (s : List Char) :
    ∃ sign, IsSign sign (Numeral.splitSign s).1 ∧ s = sign ++ (Numeral.splitSign s).2 := by
  unfold Numeral.splitSign
  split
  · exact ⟨['-'], .minus, rfl⟩
  · exact ⟨['+'], .plus, rfl⟩
  · exact ⟨[], .none, rfl⟩

theorem readExponent?_eq_some_iff {s : List Char} {e : Int} :
    Numeral.readExponent? s = some e ↔ IsExponent s e := by
  constructor
  · intro read
    cases s with
    | nil =>
      cases read
      exact .none
    | cons c r =>
      rw [Numeral.readExponent?] at read
      split at read
      · rename_i mark
        exact .marked mark (readInteger?_eq_some_iff.mp read)
      · cases read
  · rintro (_ | ⟨mark, signed⟩)
    · rfl
    · rw [Numeral.readExponent?, if_pos mark]
      exact readInteger?_eq_some_iff.mpr signed

/-- An exponent does not go on with the decimal in front of it. -/
theorem IsExponent.head {s : List Char} {e : Int} (h : IsExponent s e) :
    ∀ c ∈ s.head?, c.isDigit = false ∧ c ≠ '.' := by
  cases h with
  | none => simp
  | marked known _ =>
    rintro c ⟨⟩
    rcases known with rfl | rfl <;> exact ⟨rfl, by decide⟩

theorem IsDecimal.exists_head {decimal : List Char} (h : IsDecimal decimal) (rest : List Char) :
    ∃ c behind, decimal ++ rest = c :: behind ∧ (c.isDigit = true ∨ c = '.') := by
  cases parts : decimal with
  | nil => exact absurd parts h.ne_nil
  | cons c r => exact ⟨c, r ++ rest, rfl, h.isPointed c (parts ▸ List.mem_cons_self ..)⟩

/-! ## Numerals -/

/-- The digits that are found before and after the point of a decimal. -/
theorem IsDecimal.exists_split {decimal exponent : List Char} {e : Int}
    (written : IsDecimal decimal) (scaled : IsExponent exponent e) :
    ∃ whole fraction, (decimal ++ exponent).takeWhile Char.isDigit = whole ∧
      Numeral.splitFraction ((decimal ++ exponent).dropWhile Char.isDigit) =
        (fraction, exponent) ∧ (whole.isEmpty && fraction.isEmpty) = false ∧
      decimalValue decimal = digitsValue (whole ++ fraction) / 10 ^ fraction.length := by
  have stop : ∀ c ∈ exponent.head?, c.isDigit = false := fun c hc => (scaled.head c hc).1
  cases written with
  | whole h =>
    have unpointed : Numeral.splitFraction exponent = ([], exponent) := by
      unfold Numeral.splitFraction
      split
      · exact absurd rfl (scaled.head '.' rfl).2
      · rfl
    refine ⟨decimal, [], Text.takeWhile_run h.2 stop, ?_, by simpa using h.1, ?_⟩
    · rw [Text.dropWhile_run h.2 stop, unpointed]
    · simp [decimalValue_digits h]
  | @pointed whole fraction h =>
    have before : ∀ c ∈ whole, c.isDigit = true := fun c hc => h.2 c (List.mem_append_left _ hc)
    have behind : ∀ c ∈ fraction, c.isDigit = true :=
      fun c hc => h.2 c (List.mem_append_right _ hc)
    have point : ∀ c ∈ ('.' :: fraction ++ exponent).head?, c.isDigit = false := by
      rintro _ ⟨⟩
      rfl
    refine ⟨whole, fraction, ?_, ?_, ?_, decimalValue_pointed h⟩
    · rw [List.append_assoc, Text.takeWhile_run before point]
    · rw [List.append_assoc, Text.dropWhile_run before point, List.cons_append,
        Numeral.splitFraction, Text.takeWhile_run behind stop, Text.dropWhile_run behind stop]
    · have := h.1
      cases whole <;> simp_all

theorem Numeral.value_eq {n : Numeral} {decimal : List Char}
    (h : decimalValue decimal = digitsValue (n.whole ++ n.fraction) / 10 ^ n.fraction.length) :
    n.value = decimalValue decimal * 10 ^ n.exponent := by
  rw [h, Numeral.value, Numeral.scale, zpow_sub₀ (by norm_num), zpow_natCast]
  change (digitsValue (n.whole ++ n.fraction) : ℚ) * _ = _
  ring

theorem IsNumeral.exists_read? {s : List Char} {negative : Bool} {q : ℚ}
    (h : IsNumeral s negative q) :
    ∃ n, Numeral.read? s = some n ∧ n.negative = negative ∧ n.value = q := by
  cases h with
  | @parts sign decimal exponent _ e signed written scaled =>
    obtain ⟨whole, fraction, taken, rest, some, value⟩ := written.exists_split scaled
    refine ⟨⟨negative, whole, fraction, e⟩, ?_, rfl, Numeral.value_eq value⟩
    have front : Numeral.splitSign (sign ++ (decimal ++ exponent)) =
        (negative, decimal ++ exponent) := by
      obtain ⟨c, behind, parts, numeric⟩ := written.exists_head exponent
      rw [parts]
      exact splitSign_cons signed (unsigned_of_numeric numeric)
    rw [List.append_assoc, Numeral.read?, front]
    simp only [taken, rest, some, readExponent?_eq_some_iff.mpr scaled]
    rfl

/-- The decimal that stands in front of the rest that is looked at for an exponent. -/
theorem exists_decimal (s : List Char) {fraction rest : List Char}
    (split : Numeral.splitFraction (s.dropWhile Char.isDigit) = (fraction, rest))
    (some : ((s.takeWhile Char.isDigit).isEmpty && fraction.isEmpty) = false) :
    ∃ decimal, s = decimal ++ rest ∧ IsDecimal decimal ∧
      decimalValue decimal =
        digitsValue (s.takeWhile Char.isDigit ++ fraction) / 10 ^ fraction.length := by
  have parts : s.takeWhile Char.isDigit ++ s.dropWhile Char.isDigit = s :=
    List.takeWhile_append_dropWhile
  have before : ∀ c ∈ s.takeWhile Char.isDigit, c.isDigit = true :=
    fun c hc => List.mem_takeWhile_imp hc
  unfold Numeral.splitFraction at split
  split at split
  · rename_i r point
    obtain ⟨rfl, rfl⟩ := Prod.mk.inj split
    have digits : IsDigits (s.takeWhile Char.isDigit ++ r.takeWhile Char.isDigit) := by
      refine ⟨by simpa using some, fun c hc => ?_⟩
      exact (List.mem_append.mp hc).elim (before c) fun hc => List.mem_takeWhile_imp hc
    refine ⟨_, ?_, .pointed digits, decimalValue_pointed digits⟩
    rw [List.append_assoc, List.cons_append, List.takeWhile_append_dropWhile, ← point, parts]
  · obtain ⟨rfl, rfl⟩ := Prod.mk.inj split
    have digits : IsDigits (s.takeWhile Char.isDigit) := ⟨by simpa using some, before⟩
    refine ⟨_, parts.symm, .whole digits, ?_⟩
    simp [decimalValue_digits digits]

theorem isNumeral_of_read? {s : List Char} {n : Numeral} (read : Numeral.read? s = some n) :
    IsNumeral s n.negative n.value := by
  obtain ⟨sign, signed, parts⟩ := exists_sign s
  rw [Numeral.read?] at read
  generalize Numeral.splitSign s = front at *
  obtain ⟨negative, t⟩ := front
  dsimp only at *
  rcases split : Numeral.splitFraction (t.dropWhile Char.isDigit) with ⟨fraction, rest⟩
  rw [split] at read
  dsimp only at read
  split at read
  · cases read
  · rename_i some
    obtain ⟨e, scaled, rfl⟩ := Option.map_eq_some_iff.mp read
    obtain ⟨decimal, front, written, value⟩ := exists_decimal t split (Bool.eq_false_iff.mpr some)
    rw [Numeral.value_eq value, parts, front, ← List.append_assoc]
    exact .parts signed written (readExponent?_eq_some_iff.mp scaled)

theorem isNumeral_iff {s : List Char} {negative : Bool} {q : ℚ} : IsNumeral s negative q ↔
    ∃ n, Numeral.read? s = some n ∧ n.negative = negative ∧ n.value = q := by
  constructor
  · exact IsNumeral.exists_read?
  · rintro ⟨n, read, rfl, rfl⟩
    exact isNumeral_of_read? read

/-! ## Rounding -/

/-- The double that a number is rounded to, behind a minus if it is negated; so zero keeps its
sign. -/
def IsRounded (x : Float) (negative : Bool) (q : ℚ) : Prop :=
  ∃ magnitude, IsNearest magnitude q ∧ x = if negative then -magnitude else magnitude

/-- Zero for what is at most half of the least double, and else a positive double. -/
theorem IsNearest.cases {x : Float} {q : ℚ} (h : IsNearest x q) (finite : x.isFinite = true) :
    x = 0 ∧ q ≤ 2 ^ (-1075 : Int) ∨ ∃ m e, ∃ canonical : Canonical m e,
      x = .ofModel (.pack (.finite .positive m e canonical.pos)) ∧ RoundsTo m e q := by
  unfold IsNearest at h
  obtain ⟨negative, m, e, decoded⟩ := ofFloat_of_isFinite finite
  rcases eq_pack_of_ofFloat decoded with ⟨-, rfl⟩ | ⟨canonical, rfl⟩
  · left
    have zero : (Float.ofModel (.pack (.zero (signOf negative)))).toModel.unpack =
        .zero (signOf negative) := by cases negative <;> rfl
    rw [zero] at h
    cases negative with
    | false =>
      cases h with
      | zero tiny => exact ⟨rfl, tiny⟩
    | true => cases h
  · right
    rw [unpack_ofModel_pack canonical] at h
    cases negative with
    | false =>
      cases h with
      | finite _ rounds => exact ⟨m, e, canonical, rfl, rounds⟩
    | true => cases h

/-- Infinities and what is no number stay so behind a minus. -/
theorem isFinite_of_neg {x : Float} (h : (-x).isFinite = true) : x.isFinite = true := by
  by_contra unbounded
  rw [Bool.not_eq_true] at unbounded
  change x.toModel.unpack.isFinite = false at unbounded
  have negated : -x = .ofModel (.pack x.toModel.unpack.neg) := rfl
  rw [negated] at h
  revert h
  match x.toModel.unpack, unbounded with
  | .infinity .positive, _ | .infinity .negative, _ | .notANumber, _ => decide

theorem IsNearest.isFinite_of_tiny {x : Float} {q : ℚ} (h : IsNearest x q)
    (tiny : q ≤ 2 ^ (-1075 : Int)) : x.isFinite = true := by
  have small : q ≤ 2 ^ (0 : Int) := tiny.trans (zpow_le_zpow_right₀ one_le_two (by decide))
  exact (h.le_zpow (by decide) (by decide) small).1

/-- There is one finite double that is nearest. -/
theorem IsNearest.eq_ofScientific {x : Float} {S k : Nat} {s : Bool}
    (h : IsNearest x (S * 10 ^ signedExponent s k)) (finite : x.isFinite = true) :
    x = Float.ofScientific S s k := by
  have nearest := isNearest_ofScientific S s k
  rcases h.cases finite with ⟨rfl, tiny⟩ | ⟨m, e, canonical, rfl, rounds⟩
  · rcases nearest.cases (nearest.isFinite_of_tiny tiny) with
      ⟨zero, -⟩ | ⟨m, e, canonical, -, rounds⟩
    · exact zero.symm
    · exact absurd tiny (not_le.mpr (rounds.above canonical))
  · exact (ofScientific_eq canonical rounds).symm

theorem isRounded_toFloat (n : Numeral) : IsRounded n.toFloat n.negative n.value := by
  have magnitude := isNearest_ofScientific n.significand (n.scale < 0) n.scale.natAbs
  rw [n.signedExponent_scale] at magnitude
  exact ⟨_, magnitude, rfl⟩

theorem IsRounded.exists_finite {x : Float} {negative : Bool} {q : ℚ}
    (h : IsRounded x negative q) (finite : x.isFinite = true) :
    ∃ magnitude, IsNearest magnitude q ∧ magnitude.isFinite = true ∧
      x = if negative then -magnitude else magnitude := by
  obtain ⟨magnitude, nearest, rfl⟩ := h
  refine ⟨magnitude, nearest, ?_, rfl⟩
  cases negative with
  | false => exact finite
  | true => exact isFinite_of_neg finite

theorem IsRounded.eq_toFloat {x : Float} {n : Numeral} (h : IsRounded x n.negative n.value)
    (finite : x.isFinite = true) : x = n.toFloat := by
  obtain ⟨magnitude, nearest, bounded, rfl⟩ := h.exists_finite finite
  rw [Numeral.value, ← n.signedExponent_scale] at nearest
  rw [nearest.eq_ofScientific bounded, Numeral.toFloat]

theorem IsRounded.isFinite_of_tiny {x : Float} {negative : Bool} {q : ℚ}
    (h : IsRounded x negative q) (tiny : q ≤ 2 ^ (-1075 : Int)) : x.isFinite = true := by
  obtain ⟨magnitude, nearest, rfl⟩ := h
  cases negative with
  | false => exact nearest.isFinite_of_tiny tiny
  | true => exact isFinite_neg (nearest.isFinite_of_tiny tiny)

/-- Behind a minus only what rounds to zero is not below zero. -/
theorem IsRounded.nonneg_iff {x : Float} {q : ℚ} (h : IsRounded x true q)
    (finite : x.isFinite = true) : 0 ≤ x ↔ q ≤ 2 ^ (-1075 : Int) := by
  obtain ⟨magnitude, nearest, bounded, rfl⟩ := h.exists_finite finite
  rcases nearest.cases bounded with ⟨rfl, tiny⟩ | ⟨m, e, canonical, rfl, rounds⟩
  · exact iff_of_true (by decide +kernel) tiny
  · refine iff_of_false ?_ (not_le.mpr (rounds.above canonical))
    have zero : valueOf 0 = 0 := rfl
    rw [if_pos rfl] at finite ⊢
    rw [le_iff_valueOf (by decide +kernel) finite, zero, valueOf, neg_eq canonical,
      unpack_ofModel_pack canonical]
    exact not_le.mpr (neg_neg_of_pos canonical.value_pos)

/-- No word is read as a finite double. -/
theorem readWord?_infinite {s : List Char} {x : Float} (h : readWord? s = some x) :
    x.isFinite = false := by
  unfold readWord? at h
  dsimp only at h
  split at h
  · cases h
    decide +kernel
  · split at h
    · cases h
      decide +kernel
    · cases h

/-- **Numerals.** A finite double is read exactly from the numerals that round to it. -/
theorem readFloat?_eq_some_iff {s : List Char} {x : Float} (finite : x.isFinite = true) :
    readFloat? s = some x ↔
      ∃ negative q, IsNumeral s negative q ∧ IsRounded x negative q := by
  constructor
  · intro read
    unfold readFloat? at read
    split at read
    · rename_i n numeral
      cases read
      exact ⟨_, _, isNumeral_of_read? numeral, isRounded_toFloat n⟩
    · generalize Numeral.splitSign s = front at read
      obtain ⟨negative, word⟩ := front
      obtain ⟨y, spelled, rfl⟩ := Option.map_eq_some_iff.mp read
      have bounded : y.isFinite = true := by
        cases negative with
        | false => exact finite
        | true => exact isFinite_of_neg finite
      rw [readWord?_infinite spelled] at bounded
      cases bounded
  · rintro ⟨negative, q, numeral, rounded⟩
    obtain ⟨n, read, rfl, rfl⟩ := numeral.exists_read?
    rw [readFloat?, read, rounded.eq_toFloat finite]

/-! ## Ends of numerals -/

/-- Behind its sign a numeral goes on with a digit or a point. -/
theorem IsNumeral.exists_head {s : List Char} {negative : Bool} {q : ℚ}
    (h : IsNumeral s negative q) : ∃ sign c rest, IsSign sign negative ∧ s = sign ++ c :: rest ∧
      (c.isDigit = true ∨ c = '.') := by
  cases h with
  | @parts sign decimal exponent _ _ signed written scaled =>
    obtain ⟨c, rest, parts, numeric⟩ := written.exists_head exponent
    exact ⟨sign, c, rest, signed, by rw [List.append_assoc, parts], numeric⟩

theorem IsNumeral.ne_nil {s : List Char} {negative : Bool} {q : ℚ} (h : IsNumeral s negative q) :
    s ≠ [] := by
  obtain ⟨sign, c, rest, -, rfl, -⟩ := h.exists_head
  simp

/-- What follows a sign at the start of a text that a numeral stands at the start of. -/
theorem IsNumeral.head_eq {s behind sign rest : List Char} {c : Char} {negative minus : Bool}
    {q : ℚ} (h : IsNumeral s negative q) (signed : IsSign sign minus) (unsigned : c ≠ '+' ∧ c ≠ '-')
    (same : s ++ behind = sign ++ c :: rest) : c.isDigit = true ∨ c = '.' := by
  obtain ⟨sign', first, more, signed', rfl, numeric⟩ := h.exists_head
  rw [List.append_assoc, List.cons_append] at same
  have read := @splitSign_cons _ (more ++ behind) _ _ signed' (unsigned_of_numeric numeric)
  rw [same, splitSign_cons signed unsigned] at read
  obtain ⟨-, tails⟩ := Prod.mk.inj read
  rw [(List.cons.inj tails).1]
  exact numeric

theorem IsDigits.exists_getLast {s : List Char} (h : IsDigits s) :
    ∃ c, s.getLast? = some c ∧ c.isDigit = true :=
  ⟨s.getLast h.1, List.getLast?_eq_some_getLast h.1, h.2 _ (List.getLast_mem h.1)⟩

theorem IsSigned.exists_getLast {s : List Char} {e : Int} (h : IsSigned s e) :
    ∃ c, s.getLast? = some c ∧ c.isDigit = true := by
  cases h with
  | bare digits => exact digits.exists_getLast
  | plus digits | minus digits =>
    obtain ⟨c, last, digit⟩ := digits.exists_getLast
    exact ⟨c, by rw [List.getLast?_cons, last, Option.getD_some], digit⟩

/-- A numeral ends with a digit or a point. -/
theorem IsNumeral.exists_getLast {s : List Char} {negative : Bool} {q : ℚ}
    (h : IsNumeral s negative q) : ∃ c, s.getLast? = some c ∧ (c.isDigit = true ∨ c = '.') := by
  cases h with
  | @parts sign decimal exponent _ _ signed written scaled =>
    cases scaled with
    | none =>
      refine ⟨decimal.getLast written.ne_nil, ?_, written.isPointed _ (List.getLast_mem _)⟩
      rw [List.append_nil, List.getLast?_append, List.getLast?_eq_some_getLast written.ne_nil]
      rfl
    | marked known number =>
      obtain ⟨c, last, digit⟩ := number.exists_getLast
      refine ⟨c, ?_, Or.inl digit⟩
      rw [List.getLast?_append, List.getLast?_cons, last]
      rfl

end Provision.Number
