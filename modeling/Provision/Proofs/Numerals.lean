import Mathlib
import Provision.Number.Numeral

/-!
# Which texts are numbers

The readers of numbers against a grammar of digits, points and signs.

- `readNatural?_eq_some_iff`, `readBelow?_of_digits`: a run of digits is read to its value.
- `readInteger?_eq_some_iff`: a signed number is read to its value.
- `readFloat?_eq_none`: of the texts of digits and points none is read that has no digit or more
  than one point.
-/

namespace Provision.Number

/-- One or more decimal digits. -/
def IsDigits (s : List Char) : Prop := s ≠ [] ∧ ∀ c ∈ s, c.isDigit = true

instance (s : List Char) : Decidable (IsDigits s) :=
  decidable_of_iff (s ≠ [] ∧ s.all Char.isDigit = true) (by rw [List.all_eq_true, IsDigits])

/-- The number that digits write. -/
def digitsValue (s : List Char) : Nat := Nat.ofDigitChars 10 s 0

/-- Digits after an optional sign, and the number that they write. -/
inductive IsSigned : List Char → Int → Prop where
  | bare {digits : List Char} (h : IsDigits digits) : IsSigned digits (digitsValue digits)
  | plus {digits : List Char} (h : IsDigits digits) : IsSigned ('+' :: digits) (digitsValue digits)
  | minus {digits : List Char} (h : IsDigits digits) :
    IsSigned ('-' :: digits) (-(digitsValue digits : Int))

/-- Digits, or digits around one point with at least one of them. -/
inductive IsDecimal : List Char → Prop where
  | whole {digits : List Char} (h : IsDigits digits) : IsDecimal digits
  | pointed {whole fraction : List Char} (h : IsDigits (whole ++ fraction)) :
    IsDecimal (whole ++ '.' :: fraction)

/-- Digits and points, as many as there are. -/
def IsPointed (s : List Char) : Prop := ∀ c ∈ s, c.isDigit = true ∨ c = '.'

/-! ## Whole numbers -/

theorem IsDigits.head {c : Char} {s : List Char} (h : IsDigits (c :: s)) : c.isDigit = true :=
  h.2 c (List.mem_cons_self ..)

theorem readNatural?_eq_some_iff {s : List Char} {n : Nat} :
    readNatural? s = some n ↔ IsDigits s ∧ n = digitsValue s := by
  have digits : (!s.isEmpty && s.all Char.isDigit) = true ↔ IsDigits s := by
    simp [IsDigits]
  unfold readNatural?
  split
  · rename_i h
    simp only [Option.some.injEq, digits.mp h, true_and]
    exact eq_comm
  · rename_i h
    simp [mt digits.mpr h]

theorem isDigits_toDigits (n : Nat) : IsDigits (Nat.toDigits 10 n) :=
  (readNatural?_eq_some_iff.mp (readNatural?_toDigits n)).1

theorem digitsValue_toDigits (n : Nat) : digitsValue (Nat.toDigits 10 n) = n :=
  (readNatural?_eq_some_iff.mp (readNatural?_toDigits n)).2.symm

theorem readBelow?_of_digits {s : List Char} (h : IsDigits s) (bound : Nat) :
    readBelow? bound s = if digitsValue s < bound then some (digitsValue s) else none := by
  have read : readNatural? s = some (digitsValue s) := readNatural?_eq_some_iff.mpr ⟨h, rfl⟩
  unfold readBelow?
  split
  · have sign := h.head
    cases sign
  · simp only [read, Option.filter_some, decide_eq_true_eq]

theorem readBelow?_pointed {bound n : Nat} {s : List Char} (h : IsPointed s)
    (hn : readBelow? bound s = some n) : IsDigits s := by
  unfold readBelow? at hn
  split at hn
  · rcases h '+' (List.mem_cons_self ..) with sign | sign <;> cases sign
  · exact (readNatural?_eq_some_iff.mp (Option.filter_eq_some_iff.mp hn).1).1

theorem readInteger?_eq_some_iff {s : List Char} {n : Int} :
    readInteger? s = some n ↔ IsSigned s n := by
  constructor
  · intro h
    unfold readInteger? at h
    split at h <;>
      obtain ⟨m, hm, rfl⟩ := Option.map_eq_some_iff.mp h <;>
      obtain ⟨digits, rfl⟩ := readNatural?_eq_some_iff.mp hm
    · exact .plus digits
    · exact .minus digits
    · exact .bare digits
  · rintro (digits | digits | digits) <;>
      have read := readNatural?_eq_some_iff.mpr ⟨digits, rfl⟩
    · unfold readInteger?
      split
      · cases digits.head
      · cases digits.head
      · rw [read]
        rfl
    · simp only [readInteger?, read]
      rfl
    · simp only [readInteger?, read]
      rfl

/-! ## Decimals -/

theorem IsDecimal.isPointed {s : List Char} (h : IsDecimal s) : IsPointed s := by
  intro c hc
  cases h with
  | whole digits => exact Or.inl (digits.2 c hc)
  | @pointed whole fraction digits =>
    simp only [List.mem_append, List.mem_cons] at hc
    rcases hc with hw | rfl | hf
    · exact Or.inl (digits.2 c (List.mem_append_left _ hw))
    · exact Or.inr rfl
    · exact Or.inl (digits.2 c (List.mem_append_right _ hf))

theorem IsDecimal.ne_nil {s : List Char} (h : IsDecimal s) : s ≠ [] := by
  cases h with
  | whole digits => exact digits.1
  | pointed digits => simp

theorem splitSign_pointed {s : List Char} (h : IsPointed s) :
    Numeral.splitSign s = (false, s) := by
  unfold Numeral.splitSign
  split
  · rcases h '-' (List.mem_cons_self ..) with sign | sign <;> cases sign
  · rcases h '+' (List.mem_cons_self ..) with sign | sign <;> cases sign
  · rfl

theorem splitFraction_digits {fraction : List Char} (h : ∀ c ∈ fraction, c.isDigit = true) :
    Numeral.splitFraction ('.' :: fraction) = (fraction, []) := by
  have taken : fraction.takeWhile Char.isDigit = fraction := List.takeWhile_eq_self_iff.mpr h
  have dropped : fraction.dropWhile Char.isDigit = [] := List.dropWhile_eq_nil_iff.mpr h
  rw [Numeral.splitFraction, taken, dropped]

theorem read?_digits {s : List Char} (h : IsDigits s) :
    Numeral.read? s = some ⟨false, s, [], 0⟩ := by
  have taken : s.takeWhile Char.isDigit = s := List.takeWhile_eq_self_iff.mpr h.2
  have dropped : s.dropWhile Char.isDigit = [] := List.dropWhile_eq_nil_iff.mpr h.2
  have some : s.isEmpty = false := by simpa using h.1
  rw [Numeral.read?, splitSign_pointed (IsDecimal.whole h).isPointed]
  simp [taken, dropped, Numeral.splitFraction, some, Numeral.readExponent?]

theorem read?_pointed {whole fraction : List Char} (h : IsDigits (whole ++ fraction)) :
    Numeral.read? (whole ++ '.' :: fraction) = some ⟨false, whole, fraction, 0⟩ := by
  have hw : ∀ c ∈ whole, c.isDigit = true := fun c hc => h.2 c (List.mem_append_left _ hc)
  have hf : ∀ c ∈ fraction, c.isDigit = true := fun c hc => h.2 c (List.mem_append_right _ hc)
  have taken : (whole ++ '.' :: fraction).takeWhile Char.isDigit = whole := by
    rw [List.takeWhile_append_of_pos hw]
    simp
  have dropped : (whole ++ '.' :: fraction).dropWhile Char.isDigit = '.' :: fraction := by
    rw [List.dropWhile_append_of_pos hw]
    simp
  have some : (whole.isEmpty && fraction.isEmpty) = false := by
    have := h.1
    cases whole <;> simp_all
  rw [Numeral.read?, splitSign_pointed (IsDecimal.pointed h).isPointed]
  simp only [taken, dropped, splitFraction_digits hf, some, Numeral.readExponent?]
  rfl

/-- Nothing in a text of digits and points is an exponent. -/
theorem readExponent?_pointed {s : List Char} (h : IsPointed s) {e : Int}
    (he : Numeral.readExponent? s = some e) : s = [] := by
  cases s with
  | nil => rfl
  | cons c r =>
    have mark : ¬ (c = 'e' ∨ c = 'E') := by
      rintro (rfl | rfl) <;> rcases h _ (List.mem_cons_self ..) with no | no <;> cases no
    rw [Numeral.readExponent?, if_neg mark] at he
    cases he

/-- A text of digits and points that is read is a decimal. -/
theorem IsDecimal.of_read? {s : List Char} {n : Numeral} (h : IsPointed s)
    (hn : Numeral.read? s = some n) : IsDecimal s := by
  have split : s.takeWhile Char.isDigit ++ s.dropWhile Char.isDigit = s :=
    List.takeWhile_append_dropWhile
  have digits : ∀ c ∈ s.takeWhile Char.isDigit, c.isDigit = true :=
    fun c hc => List.mem_takeWhile_imp hc
  rw [Numeral.read?, splitSign_pointed h] at hn
  cases rest : s.dropWhile Char.isDigit with
  | nil =>
    rw [rest, List.append_nil] at split
    rw [split] at digits
    refine .whole ⟨?_, digits⟩
    rintro rfl
    cases hn
  | cons c r =>
    rw [rest] at split
    have stop := List.head?_dropWhile_not Char.isDigit s
    simp only [rest, List.head?_cons] at stop
    have point : c = '.' := (h c (by rw [← split]; simp)).resolve_left (by simp [stop])
    subst point
    have behind : IsPointed (r.dropWhile Char.isDigit) := by
      intro c hc
      have hr := (List.dropWhile_sublist _).subset hc
      exact h c (by rw [← split]; simp [hr])
    simp only [rest, Numeral.splitFraction] at hn
    split at hn
    · cases hn
    · rename_i some
      obtain ⟨e, he, -⟩ := Option.map_eq_some_iff.mp hn
      have all := List.dropWhile_eq_nil_iff.mp (readExponent?_pointed behind he)
      have taken := List.takeWhile_eq_self_iff.mpr all
      rw [taken] at some
      rw [← split]
      refine .pointed ⟨by simpa using some, fun c hc => ?_⟩
      rcases List.mem_append.mp hc with hw | hf
      · exact digits c hw
      · exact all c hf

theorem toLower_of_digit {c : Char} (h : c.isDigit = true ∨ c = '.') : c.toLower = c := by
  have below : ¬ (c.val ≥ 'A'.val ∧ c.val ≤ 'Z'.val) := by
    rintro ⟨letter, -⟩
    rcases h with digit | rfl
    · simp only [Char.isDigit, Bool.and_eq_true, decide_eq_true_eq] at digit
      exact absurd (UInt32.le_trans letter digit.2) (by decide)
    · exact absurd letter (by decide)
  exact dif_neg below

/-- No text of digits and points is a word. -/
theorem readWord?_pointed {s : List Char} (h : IsPointed s) : readWord? s = none := by
  have lower : s.map Char.toLower = s := by
    rw [List.map_congr_left fun c hc => toLower_of_digit (h c hc), List.map_id']
  have letter {c : Char} {r : List Char} (hs : s = c :: r) : c.isDigit = true ∨ c = '.' :=
    h c (by rw [hs]; exact List.mem_cons_self ..)
  simp only [readWord?, lower]
  split
  · rename_i inf
    rcases inf with hs | hs <;> rcases letter hs with no | no <;> cases no
  · split
    · rename_i hs
      rcases letter hs with no | no <;> cases no
    · rfl

theorem readFloat?_eq_none {s : List Char} (h : IsPointed s) (hs : ¬ IsDecimal s) :
    readFloat? s = none := by
  have unread : Numeral.read? s = none := by
    cases hn : Numeral.read? s with
    | none => rfl
    | some n => exact absurd (IsDecimal.of_read? h hn) hs
  simp only [readFloat?, unread, splitSign_pointed h, readWord?_pointed h]
  rfl

end Provision.Number
