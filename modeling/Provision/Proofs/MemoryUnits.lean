import Provision.Proofs.Numerals
import Provision.Proofs.Trimming
import Provision.Quantity.Memory

/-!
# How units of memory are spelled

The units against a list of their spellings. A multiple is a letter, or a letter and an `i`, and may
have one `B` behind it; a thousandth has none, and neither has a power of ten.

- `unitFactor?_eq_some_iff`: the multiples that are known are the listed ones.
- `ofUnit?_eq_some_iff`: a unit is known exactly by its spellings, each of which means one scale.
- `Spelling.standsApart`: a spelling can be told from the number and the white space before it.
-/

namespace Provision.Quantity

open Number (IsSigned IsDigits)

/-- The letters of the powers of 1000 and 1024, from the first power on. -/
def letters : List Char := ['K', 'M', 'G', 'T', 'P', 'E']

/-- The letters of a multiple of the byte, and how many bytes it is. -/
inductive IsMultiple : List Char → Nat → Prop where
  | kilo : IsMultiple ['k'] 1000
  | decimal (i : Fin letters.length) : IsMultiple [letters.get i] (1000 ^ (i.val + 1))
  | binary (i : Fin letters.length) : IsMultiple [letters.get i, 'i'] (1024 ^ (i.val + 1))

/-- No white space and no point, and no digit in front: what can be told from a number and white
space before it. -/
def StandsApart (s : List Char) : Prop :=
  (∀ c ∈ s, Text.isBlank c = false ∧ c ≠ '.') ∧ ∀ c ∈ s.head?, c.isDigit = false

instance (s : List Char) : Decidable (StandsApart s) :=
  decidable_of_iff
    ((s.all fun c => !Text.isBlank c && c != '.') && s.head?.all fun c => !c.isDigit)
    (by cases s <;> simp [StandsApart])

/-- The spellings of a scale. -/
inductive Scale.Spelling : Scale → List Char → Prop where
  | none : Spelling (.bytes 1) []
  | byte : Spelling (.bytes 1) ['B']
  | multiple {s : List Char} {n : Nat} (h : IsMultiple s n) : Spelling (.bytes n) s
  | marked {s : List Char} {n : Nat} (h : IsMultiple s n) : Spelling (.bytes n) (s ++ ['B'])
  | milli : Spelling .milli ['m']
  | power {mark : Char} {s : List Char} {e : Int} (hm : mark = 'e' ∨ mark = 'E')
    (hs : IsSigned s e) (lower : Int32.minValue.toInt ≤ e) (upper : e ≤ Int32.maxValue.toInt) :
    Spelling (.power e) (mark :: s)

/-! ## Multiples -/

theorem unitFactor?_eq_some_iff {s : List Char} {n : Nat} :
    unitFactor? s = some n ↔ (s = [] ∧ n = 1) ∨ IsMultiple s n := by
  constructor
  · intro h
    unfold unitFactor? at h
    split at h <;> cases h
    · exact Or.inl ⟨rfl, rfl⟩
    · exact Or.inr .kilo
    · have first : IsMultiple ['K'] (Nat.pow 1000 1) := .decimal ⟨0, by decide⟩
      exact Or.inr first
    · exact Or.inr (.decimal ⟨1, by decide⟩)
    · exact Or.inr (.decimal ⟨2, by decide⟩)
    · exact Or.inr (.decimal ⟨3, by decide⟩)
    · exact Or.inr (.decimal ⟨4, by decide⟩)
    · exact Or.inr (.decimal ⟨5, by decide⟩)
    · have first : IsMultiple ['K', 'i'] (Nat.pow 1024 1) := .binary ⟨0, by decide⟩
      exact Or.inr first
    · exact Or.inr (.binary ⟨1, by decide⟩)
    · exact Or.inr (.binary ⟨2, by decide⟩)
    · exact Or.inr (.binary ⟨3, by decide⟩)
    · exact Or.inr (.binary ⟨4, by decide⟩)
    · exact Or.inr (.binary ⟨5, by decide⟩)
  · rintro (⟨rfl, rfl⟩ | h)
    · rfl
    · cases h with
      | kilo => rfl
      | decimal i | binary i =>
        revert i
        decide

/-! ## The mark of the byte -/

theorem withoutByteMark_marked (s : List Char) : withoutByteMark (s ++ ['B']) = s := by
  simp [withoutByteMark]

theorem withoutByteMark_eq {s : List Char} (h : s.getLast? ≠ some 'B') :
    withoutByteMark s = s := if_neg h

theorem eq_withoutByteMark (s : List Char) :
    s = withoutByteMark s ∨ s = withoutByteMark s ++ ['B'] := by
  by_cases h : s.getLast? = some 'B'
  · obtain ⟨r, rfl⟩ := List.getLast?_eq_some_iff.mp h
    exact Or.inr (by rw [withoutByteMark_marked])
  · exact Or.inl (withoutByteMark_eq h).symm

/-! ## Powers of ten -/

theorem unitExponent?_eq_some_iff {unit : List Char} {e : Int} :
    unitExponent? unit = some e ↔ ∃ mark s, unit = mark :: s ∧ (mark = 'e' ∨ mark = 'E') ∧
      IsSigned s e ∧ Int32.minValue.toInt ≤ e ∧ e ≤ Int32.maxValue.toInt := by
  constructor
  · intro h
    unfold unitExponent? at h
    split at h
    · rename_i mark s
      split at h
      · rename_i hm
        obtain ⟨hs, range⟩ := Option.filter_eq_some_iff.mp h
        simp only [decide_eq_true_eq] at range
        exact ⟨mark, s, rfl, hm, Number.readInteger?_eq_some_iff.mp hs, range⟩
      · cases h
    · cases h
  · rintro ⟨mark, s, rfl, hm, hs, range⟩
    rw [unitExponent?, if_pos hm, Number.readInteger?_eq_some_iff.mpr hs]
    exact Option.filter_eq_some_iff.mpr ⟨rfl, decide_eq_true range⟩

/-! ## Spellings -/

/-- Behind the `E` of a multiple there is no number, so that it is no power of ten. -/
theorem IsMultiple.ofUnit? {s : List Char} {n : Nat} (h : IsMultiple s n) :
    Scale.ofUnit? s = some (.bytes n) ∧ Scale.ofUnit? (s ++ ['B']) = some (.bytes n) := by
  cases h with
  | kilo => exact ⟨rfl, rfl⟩
  | decimal i | binary i =>
    revert i
    decide

namespace Scale

theorem ofUnit?_eq_some_iff {unit : List Char} {scale : Scale} :
    ofUnit? unit = some scale ↔ scale.Spelling unit := by
  constructor
  · intro h
    unfold ofUnit? at h
    split at h
    · rename_i milli
      cases h
      rw [milli]
      exact .milli
    split at h
    · rename_i e he
      obtain ⟨mark, s, rfl, hm, hs, lower, upper⟩ := unitExponent?_eq_some_iff.mp he
      cases h
      exact .power hm hs lower upper
    obtain ⟨n, hn, rfl⟩ := Option.map_eq_some_iff.mp h
    rcases unitFactor?_eq_some_iff.mp hn with ⟨bare, rfl⟩ | multiple
    · rcases eq_withoutByteMark unit with same | marked
      · rw [same, bare]
        exact .none
      · rw [marked, bare]
        exact .byte
    · rcases eq_withoutByteMark unit with same | marked
      · rw [same]
        exact .multiple multiple
      · rw [marked]
        exact .marked multiple
  · intro h
    cases h with
    | none => rfl
    | byte => rfl
    | multiple h => exact h.ofUnit?.1
    | marked h => exact h.ofUnit?.2
    | milli => rfl
    | @power mark s e hm hs lower upper =>
      have power : mark :: s ≠ ['m'] := by
        intro same
        cases same
        rcases hm with hm | hm <;> cases hm
      rw [ofUnit?, if_neg power,
        unitExponent?_eq_some_iff.mpr ⟨mark, s, rfl, hm, hs, lower, upper⟩]

end Scale

/-! ## What a spelling is made of -/

theorem solid_of_signed {s : List Char} {e : Int} (h : IsSigned s e) :
    ∀ c ∈ s, Text.isBlank c = false ∧ c ≠ '.' := by
  have digit {digits : List Char} (h : IsDigits digits) :
      ∀ c ∈ digits, Text.isBlank c = false ∧ c ≠ '.' := by
    intro c hc
    refine ⟨Text.isBlank_of_digit (h.2 c hc), ?_⟩
    rintro rfl
    exact absurd (h.2 _ hc) (by decide)
  cases h with
  | bare digits => exact digit digits
  | plus digits | minus digits =>
    intro c hc
    rcases List.mem_cons.mp hc with rfl | hc
    · exact ⟨rfl, by decide⟩
    · exact digit digits c hc

theorem IsMultiple.standsApart {s : List Char} {n : Nat} (h : IsMultiple s n) :
    StandsApart s ∧ StandsApart (s ++ ['B']) := by
  cases h with
  | kilo => decide
  | decimal i | binary i =>
    revert i
    decide

theorem Scale.Spelling.standsApart {unit : List Char} {scale : Scale} (h : scale.Spelling unit) :
    StandsApart unit := by
  cases h with
  | none | byte | milli => decide
  | multiple h => exact h.standsApart.1
  | marked h => exact h.standsApart.2
  | power hm hs lower upper =>
    constructor
    · intro c hc
      rcases List.mem_cons.mp hc with rfl | hc
      · rcases hm with rfl | rfl <;> exact ⟨rfl, by decide⟩
      · exact solid_of_signed hs c hc
    · rintro c ⟨⟩
      rcases hm with rfl | rfl <;> rfl

end Provision.Quantity
