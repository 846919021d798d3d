import Provision.Proofs.JsonText
import Provision.Proofs.Numerals
import Provision.Proofs.Trimming

/-!
# Numbers and strings of the standard codec

- `number?_append`: a number ends where white space, a comma or a bracket follows.
- `keepsNumber_natural`: whole numbers that fit into a word read back.
- `keepsString`: so does every string, whatever has to be escaped in it.
-/

namespace Provision

namespace Json

/-! ## Where a number ends -/

theorem number?_of_unsigned {s : List Char} (h : s.head? ≠ some '-') :
    number? s = unsigned? false s := by
  unfold number?
  split
  · exact absurd rfl h
  · rfl

section
variable {rest : List Char} (closes : Closes rest)
include closes

theorem Closes.stops {p : Char → Bool}
    (never : [' ', '\n', '\t', '\r', ',', ']', '\x7d'].all (!p ·) = true) :
    ∀ c ∈ rest.head?, p c = false := by
  intro c hc
  rw [← Bool.not_eq_true']
  apply List.all_eq_true.mp never
  simpa [isSpace, or_assoc] using closes c hc

theorem takeWhile_closes (s : List Char) :
    (s ++ rest).takeWhile Char.isDigit = s.takeWhile Char.isDigit := by
  have stop := closes.stops (p := Char.isDigit) (by decide)
  induction s with
  | nil =>
    cases rest with
    | nil => rfl
    | cons c r => simp [stop c rfl]
  | cons c s ih => simp only [List.cons_append, List.takeWhile_cons, ih]

theorem dropWhile_closes (s : List Char) :
    (s ++ rest).dropWhile Char.isDigit = s.dropWhile Char.isDigit ++ rest := by
  have stop := closes.stops (p := Char.isDigit) (by decide)
  induction s with
  | nil =>
    cases rest with
    | nil => rfl
    | cons c r => simp [stop c rfl]
  | cons c s ih =>
    simp only [List.cons_append, List.dropWhile_cons, ih]
    split <;> rfl

theorem splitFraction?_append (s : List Char) :
    splitFraction? (s ++ rest) = (splitFraction? s).map fun p => (p.1, p.2 ++ rest) := by
  have point := closes.stops (p := (· = '.')) (by decide)
  cases s with
  | nil =>
    cases rest with
    | nil => rfl
    | cons c r =>
      have : c ≠ '.' := by simpa using point c rfl
      simp [splitFraction?, this]
  | cons c s =>
    by_cases hc : c = '.'
    · subst hc
      simp only [List.cons_append, splitFraction?, takeWhile_closes closes, dropWhile_closes closes]
      split <;> rfl
    · simp [splitFraction?, hc]

theorem splitSign_append (s : List Char) :
    Number.Numeral.splitSign (s ++ rest) =
      ((Number.Numeral.splitSign s).1, (Number.Numeral.splitSign s).2 ++ rest) := by
  have minus := closes.stops (p := (· = '-')) (by decide)
  have plus := closes.stops (p := (· = '+')) (by decide)
  cases s with
  | nil =>
    cases rest with
    | nil => rfl
    | cons c r =>
      have hm : c ≠ '-' := by simpa using minus c rfl
      have hp : c ≠ '+' := by simpa using plus c rfl
      simp [Number.Numeral.splitSign, hm, hp]
  | cons c s =>
    by_cases hm : c = '-'
    · subst hm
      rfl
    · by_cases hp : c = '+'
      · subst hp
        rfl
      · simp [Number.Numeral.splitSign, hm, hp]

theorem splitExponent?_append (s : List Char) :
    splitExponent? (s ++ rest) = (splitExponent? s).map fun p => (p.1, p.2 ++ rest) := by
  have mark := closes.stops (p := fun c => c = 'e' ∨ c = 'E') (by decide)
  cases s with
  | nil =>
    cases rest with
    | nil => rfl
    | cons c r =>
      have : ¬(c = 'e' ∨ c = 'E') := by simpa using mark c rfl
      simp [splitExponent?, this]
  | cons c s =>
    by_cases hc : c = 'e' ∨ c = 'E'
    · simp only [List.cons_append, splitExponent?, if_pos hc, splitSign_append closes,
        takeWhile_closes closes, dropWhile_closes closes, Option.map_map]
      rfl
    · simp [splitExponent?, hc]

theorem unsigned?_append (negative : Bool) (s : List Char) :
    unsigned? negative (s ++ rest) = (unsigned? negative s).map fun p => (p.1, p.2 ++ rest) := by
  simp only [unsigned?, takeWhile_closes closes, dropWhile_closes closes]
  split
  · rw [splitFraction?_append closes]
    cases splitFraction? (s.dropWhile Char.isDigit) with
    | none => rfl
    | some fraction =>
      simp only [Option.map_some, Option.bind_eq_bind, Option.bind_some]
      rw [splitExponent?_append closes]
      cases splitExponent? fraction.2 <;> rfl
  · rfl

/-- A number ends where a value may end. -/
theorem number?_append (s : List Char) :
    number? (s ++ rest) = (number? s).map fun p => (p.1, p.2 ++ rest) := by
  have minus := closes.stops (p := (· = '-')) (by decide)
  cases s with
  | nil =>
    cases rest with
    | nil => rfl
    | cons c r =>
      have : c ≠ '-' := by simpa using minus c rfl
      have unsigned := unsigned?_append closes false []
      rw [List.nil_append] at unsigned ⊢
      rw [number?_of_unsigned (by simpa using this), unsigned]
      rfl
  | cons c s =>
    by_cases sign : c = '-'
    · subst sign
      exact unsigned?_append closes true s
    · have front {r : List Char} : (c :: r).head? ≠ some '-' := by simpa using sign
      rw [List.cons_append, number?_of_unsigned front, number?_of_unsigned front,
        ← List.cons_append, unsigned?_append closes]

end

theorem opens_of_number? {s : List Char} {p : Number × List Char} (h : number? s = some p) :
    ∃ c r, s = c :: r ∧ opensNumber c = true := by
  cases s with
  | nil => cases h
  | cons c r =>
    refine ⟨c, r, rfl, ?_⟩
    by_cases sign : c = '-'
    · rw [sign]
      rfl
    · rw [number?_of_unsigned (by simpa using sign), unsigned?] at h
      by_contra other
      have none : ¬ c.isDigit = true := fun digit => other (by simp [opensNumber, digit])
      rw [List.takeWhile_cons_of_neg none] at h
      cases h

/-- A number reads back that does so with nothing behind it. -/
theorem keepsNumber_of_read {n : Number} (h : number? n.text.toList = some (n, [])) :
    Codec.standard.KeepsNumber n := by
  refine ⟨opens_of_number? h, fun rest closes => ?_⟩
  change number? (n.text.toList ++ rest) = some (n, rest)
  rw [number?_append closes, h]
  rfl

/-! ## Whole numbers -/

/-- Digits behind a number do not make it less. -/
theorem le_ofDigitChars (digits : List Char) (n : Nat) : n ≤ Nat.ofDigitChars 10 digits n := by
  have power : 0 < 10 ^ digits.length := by positivity
  rw [Nat.ofDigitChars_eq_ofDigitChars_zero]
  exact le_add_right (Nat.le_mul_of_pos_left _ power)

theorem lengthen_eq {digits : List Char} {n : Nat}
    (fits : Nat.ofDigitChars 10 digits n < UInt64.size) :
    lengthen n digits = (Nat.ofDigitChars 10 digits n, []) := by
  induction digits generalizing n with
  | nil => rfl
  | cons c r ih =>
    rw [Nat.ofDigitChars_cons, Nat.mul_comm] at fits ⊢
    have longer : n * 10 + (c.toNat - '0'.toNat) < UInt64.size :=
      Nat.lt_of_le_of_lt (le_ofDigitChars ..) fits
    rw [lengthen, if_pos longer, ih fits]

/-- No zero stands in front of a positive number. -/
theorem head?_toDigits {n : Nat} (h : 0 < n) : (Nat.toDigits 10 n).head? ≠ some '0' := by
  induction n using Nat.strongRecOn with
  | ind n ih =>
    rcases Nat.lt_or_ge n 10 with small | large
    · have nonzero : ∀ n < 10, 0 < n → n.digitChar ≠ '0' := by decide
      rw [Nat.toDigits_of_lt_base small]
      simpa using nonzero n small h
    · have shorter := ih (n / 10) (by omega) (by omega)
      rw [Nat.toDigits_of_base_le (by decide) large,
        List.head?_append_of_ne_nil _ Nat.toDigits_ne_nil]
      exact shorter

theorem isWholePart_toDigits (n : Nat) : isWholePart (Nat.toDigits 10 n) = true := by
  unfold isWholePart
  split
  · rename_i h
    exact absurd h Nat.toDigits_ne_nil
  · rfl
  · rename_i r short h
    rcases Nat.eq_zero_or_pos n with rfl | positive
    · rw [Nat.toDigits_zero] at h
      cases h
      exact absurd rfl short
    · exact absurd (by rw [h]; rfl) (head?_toDigits positive)
  · rfl

theorem number?_natural {n : Nat} (h : n < UInt64.size) :
    number? (Number.natural n).text.toList = some (.natural n, []) := by
  have written : (Number.natural n).text.toList = Nat.toDigits 10 n := Nat.toList_repr
  have digits := (Provision.Number.isDigits_toDigits n).2
  have unsigned : (Nat.toDigits 10 n).head? ≠ some '-' := by
    intro sign
    have := digits '-' (List.mem_of_mem_head? sign)
    cases this
  have value : lengthen 0 (Nat.toDigits 10 n) = (n, []) := by
    have back : Nat.ofDigitChars 10 (Nat.toDigits 10 n) 0 = n := Nat.ofDigitChars_ten_toDigits
    rw [lengthen_eq (by rwa [back]), back]
  rw [written, number?_of_unsigned unsigned, unsigned?, List.takeWhile_eq_self_iff.mpr digits,
    List.dropWhile_eq_nil_iff.mpr digits, if_pos (isWholePart_toDigits n)]
  simp only [splitFraction?, splitExponent?, Option.bind_eq_bind, Option.bind_some, numberOf, value]
  rfl

/-- Whole numbers that fit into a word read back. -/
theorem keepsNumber_natural {n : Nat} (h : n < UInt64.size) :
    Codec.standard.KeepsNumber (.natural n) := keepsNumber_of_read (number?_natural h)

/-! ## Strings -/

/-- What the escape of a character is read to: control characters without a letter are code
units. -/
def piece (c : Char) : Piece :=
  if (letterEscape? c).isNone ∧ c.toNat < 0x20 then .unit c.toNat else .char c

theorem readBase?_control {n : Nat} (h : n < 0x20) :
    Number.readBase? 16 ['0', '0', Nat.digitChar (n / 16), Nat.digitChar (n % 16)] = some n := by
  have all : ∀ n < 0x20, Number.readBase? 16
      ['0', '0', Nat.digitChar (n / 16), Nat.digitChar (n % 16)] = some n := by decide
  exact all n h

theorem letterMeaning?_letterEscape {c letter : Char} (h : letterEscape? c = some letter) :
    letter ≠ 'u' ∧ letterMeaning? letter = some c := by
  unfold letterEscape? at h
  repeat' split at h
  · rename_i mark
    cases h
    rcases mark with rfl | rfl <;> decide
  all_goals
    cases h
  all_goals
    subst_vars
    decide

theorem pieces?_escapeChar (c : Char) (s : List Char) :
    pieces? (escapeChar c ++ s) = (pieces? s).map fun p => (piece c :: p.1, p.2) := by
  cases escaped : letterEscape? c with
  | some letter =>
    obtain ⟨short, meaning⟩ := letterMeaning?_letterEscape escaped
    have read : pieces? ('\\' :: letter :: s) =
        (pieces? s).map fun p => (.char c :: p.1, p.2) := by
      rw [pieces?, meaning]
      · cases pieces? s <;> rfl
      · rintro - - - - r rfl
        exact absurd rfl short
    rw [escapeChar, escaped, piece, escaped]
    exact read
  | none =>
    by_cases control : c.toNat < 0x20
    · have read : pieces? (['\\', 'u', '0', '0', Nat.digitChar (c.toNat / 16),
          Nat.digitChar (c.toNat % 16)] ++ s) =
          (pieces? s).map fun p => (.unit c.toNat :: p.1, p.2) := by
        simp only [List.cons_append, List.nil_append]
        rw [pieces?, readBase?_control control]
        cases pieces? s <;> rfl
      have unit : piece c = .unit c.toNat := if_pos ⟨by rw [escaped]; rfl, control⟩
      simp only [escapeChar, escaped, if_pos control, unit, read]
    · -- A quote and a backslash have a letter, so that no other rule of the reader applies.
      have plain : c ≠ '"' ∧ c ≠ '\\' := by
        constructor <;> rintro rfl <;> cases escaped
      have read : pieces? (c :: s) = (pieces? s).map fun p => (.char c :: p.1, p.2) := by
        rw [pieces?, if_neg control]
        · cases pieces? s <;> rfl
        · exact plain.1
        · rintro - - - - - rfl
          exact absurd rfl plain.2
        · rintro - - rfl
          exact absurd rfl plain.2
      have char : piece c = .char c := if_neg fun h => control h.2
      simp only [escapeChar, escaped, if_neg control, char, List.cons_append, List.nil_append, read]

theorem pieces?_escaped (s rest : List Char) :
    pieces? (s.flatMap escapeChar ++ '"' :: rest) = some (s.map piece, rest) := by
  induction s with
  | nil => rfl
  | cons c s ih =>
    rw [List.flatMap_cons, List.append_assoc, pieces?_escapeChar, ih]
    rfl

theorem assemble_pieces (s : List Char) : assemble (s.map piece) = some s := by
  induction s with
  | nil => rfl
  | cons c s ih =>
    rw [List.map_cons]
    by_cases control : (letterEscape? c).isNone ∧ c.toNat < 0x20
    · have high : isHighSurrogate c.toNat = false := by
        simp only [isHighSurrogate, Bool.and_eq_false_iff, decide_eq_false_iff_not]
        omega
      have low : isLowSurrogate c.toNat = false := by
        simp only [isLowSurrogate, Bool.and_eq_false_iff, decide_eq_false_iff_not]
        omega
      have unit : piece c = .unit c.toNat := if_pos control
      rw [unit]
      unfold assemble
      simp [high, low, ih]
    · have char : piece c = .char c := if_neg control
      rw [char, assemble, ih]
      rfl

/-- Every string reads back, whatever has to be escaped in it. -/
theorem keepsString (s : String) : Codec.standard.KeepsString s := by
  refine ⟨s.toList.flatMap escapeChar ++ ['"'], String.toList_ofList, fun rest => ?_⟩
  change string? _ = _
  rw [List.append_assoc, List.singleton_append, string?, pieces?_escaped]
  simp only [Option.map_some, assemble_pieces, String.ofList_toList]

end Json

end Provision
