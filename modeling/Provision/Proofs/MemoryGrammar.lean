import Provision.Fault
import Provision.Proofs.MemoryUnits

/-!
# Which texts are quantities of memory

The reader of quantities against a grammar: a decimal, white space and a unit.

- `readMemory_of_parts`: the number is the longest run of digits and points, the unit is the rest.
- `readMemory_malformed`: what is not of the grammar is refused for its form.
- `IsQuantity.unique`: what is of the grammar has one number and one unit.
-/

namespace Provision.Quantity

open Number (IsDecimal IsDigits IsPointed)
open Text (IsBlanks)

/-- A decimal, white space and the spelling of a unit. -/
def IsQuantity (s number : List Char) (scale : Scale) : Prop :=
  ∃ blanks unit, s = number ++ blanks ++ unit ∧ IsDecimal number ∧ IsBlanks blanks ∧
    scale.Spelling unit

/-! ## The parts of a text -/

theorem isNumeric_iff {c : Char} : isNumeric c = true ↔ c.isDigit = true ∨ c = '.' := by
  simp [isNumeric]

theorem isNumeric_of_blank {c : Char} (h : Text.isBlank c = true) : isNumeric c = false := by
  rw [Bool.eq_false_iff]
  intro numeric
  rcases isNumeric_iff.mp numeric with digit | rfl
  · rw [Text.isBlank_of_digit digit] at h
    cases h
  · cases h

section
variable {number rest blanks unit : List Char}

theorem takeWhile_number (pointed : IsPointed number)
    (stop : ∀ c ∈ rest.head?, isNumeric c = false) :
    (number ++ rest).takeWhile isNumeric = number ∧
      (number ++ rest).dropWhile isNumeric = rest := by
  have all : ∀ c ∈ number, isNumeric c = true := fun c hc => isNumeric_iff.mpr (pointed c hc)
  exact ⟨Text.takeWhile_run all stop, Text.dropWhile_run all stop⟩

/-- A unit that stands apart is found behind the white space. -/
theorem StandsApart.behind_blanks (h : StandsApart unit) (hb : IsBlanks blanks) :
    (∀ c ∈ (blanks ++ unit).head?, isNumeric c = false) ∧ Text.trim (blanks ++ unit) = unit := by
  constructor
  · cases blanks with
    | nil =>
      intro c hc
      have point : c ≠ '.' := (h.1 c (List.mem_of_mem_head? hc)).2
      simp [isNumeric, h.2 c hc, point]
    | cons b bs =>
      rintro c ⟨⟩
      exact isNumeric_of_blank (hb b (List.mem_cons_self ..))
  · rw [Text.trim_blank_append hb, Text.trim_solid fun c hc => (h.1 c hc).1]

theorem readMemory_of_parts {s : List Char} (text : Text.trim s = number ++ rest)
    (nonempty : number ≠ []) (pointed : IsPointed number)
    (stop : ∀ c ∈ rest.head?, isNumeric c = false) :
    readMemory s = match Scale.ofUnit? (Text.trim rest) with
      | none => .error (.unknownUnit (String.ofList (Text.trim rest)))
      | some scale => scaleNumber number scale := by
  obtain ⟨taken, dropped⟩ := takeWhile_number pointed stop
  have text_ne : (number ++ rest).isEmpty = false := by simp [nonempty]
  have number_ne : number.isEmpty = false := by simp [nonempty]
  unfold readMemory
  simp only [text, taken, dropped, text_ne, number_ne]
  rfl

end

/-- Where no decimal is, there is no number of any size. -/
theorem scaleNumber_malformed {number : List Char} (pointed : IsPointed number)
    (h : ¬ IsDecimal number) (scale : Scale) : scaleNumber number scale = .error .notANumber := by
  have whole : Number.readBelow? UInt64.size number = none := by
    cases hn : Number.readBelow? UInt64.size number with
    | none => rfl
    | some n => exact absurd (.whole (Number.readBelow?_pointed pointed hn)) h
  rw [scaleNumber, whole, scaleFloat, Number.readFloat?_eq_none pointed h]

/-! ## Texts of the grammar and other texts -/

theorem IsQuantity.readMemory {s number : List Char} {scale : Scale}
    (h : IsQuantity (Text.trim s) number scale) : readMemory s = scaleNumber number scale := by
  obtain ⟨blanks, unit, parts, decimal, hb, spelling⟩ := h
  obtain ⟨stop, trimmed⟩ := spelling.standsApart.behind_blanks hb
  rw [List.append_assoc] at parts
  rw [readMemory_of_parts parts decimal.ne_nil decimal.isPointed stop, trimmed,
    Scale.ofUnit?_eq_some_iff.mpr spelling]

/-- A text is a quantity in one way only. -/
theorem IsQuantity.unique {s number number' : List Char} {scale scale' : Scale}
    (h : IsQuantity s number scale) (h' : IsQuantity s number' scale') :
    number' = number ∧ scale' = scale := by
  have parts {number : List Char} {scale : Scale} (h : IsQuantity s number scale) :
      s.takeWhile isNumeric = number ∧
        Scale.ofUnit? (Text.trim (s.dropWhile isNumeric)) = some scale := by
    obtain ⟨blanks, unit, rfl, decimal, hb, spelling⟩ := h
    obtain ⟨stop, trimmed⟩ := spelling.standsApart.behind_blanks hb
    rw [List.append_assoc]
    obtain ⟨taken, dropped⟩ := takeWhile_number decimal.isPointed stop
    rw [dropped, trimmed]
    exact ⟨taken, Scale.ofUnit?_eq_some_iff.mpr spelling⟩
  obtain ⟨taken, unit⟩ := parts h
  obtain ⟨taken', unit'⟩ := parts h'
  exact ⟨taken'.symm.trans taken, Option.some.inj (unit'.symm.trans unit)⟩

/-- What is read as a decimal and a unit is of the grammar. -/
theorem isQuantity_of_parts {s number rest : List Char} {scale : Scale}
    (parts : Text.trim s = number ++ rest) (decimal : IsDecimal number)
    (unit : Scale.ofUnit? (Text.trim rest) = some scale) :
    IsQuantity (Text.trim s) number scale := by
  refine ⟨rest.takeWhile Text.isBlank, Text.trim rest, ?_, decimal,
    fun c hc => List.mem_takeWhile_imp hc, Scale.ofUnit?_eq_some_iff.mp unit⟩
  rw [Text.trim_rest parts, Text.trimStart, List.append_assoc, List.takeWhile_append_dropWhile,
    parts]

/-- Without a digit or a point in front there is no number. -/
theorem readMemory_without_number {s : List Char}
    (h : ∀ c ∈ (Text.trim s).head?, isNumeric c = false) :
    ∃ reason : Reason, reason.IsSyntactic ∧ readMemory s = .error reason := by
  by_cases empty : Text.trim s = []
  · exact ⟨.empty, trivial, by simp [readMemory, empty]⟩
  · have none : (Text.trim s).takeWhile isNumeric = [] := by
      cases front : Text.trim s with
      | nil => rfl
      | cons c r => exact List.takeWhile_cons_of_neg (by simp [h c (by rw [front]; rfl)])
    exact ⟨.noNumber, trivial, by simp [readMemory, empty, none]⟩

/-- The longest run of digits and points in front, and what follows it. -/
theorem exists_parts (s : List Char) : ∃ number rest, s = number ++ rest ∧ IsPointed number ∧
    ∀ c ∈ rest.head?, isNumeric c = false := by
  refine ⟨s.takeWhile isNumeric, s.dropWhile isNumeric, List.takeWhile_append_dropWhile.symm,
    fun c hc => isNumeric_iff.mp (List.mem_takeWhile_imp hc), ?_⟩
  intro c hc
  have first := List.head?_dropWhile_not isNumeric s
  rw [Option.mem_def.mp hc] at first
  simpa using first

theorem readMemory_malformed {s : List Char}
    (h : ¬ ∃ number scale, IsQuantity (Text.trim s) number scale) :
    ∃ reason : Reason, reason.IsSyntactic ∧ readMemory s = .error reason := by
  obtain ⟨number, rest, parts, pointed, stop⟩ := exists_parts (Text.trim s)
  by_cases none : number = []
  · subst none
    exact readMemory_without_number (by rwa [parts])
  have read := readMemory_of_parts parts none pointed stop
  cases unit : Scale.ofUnit? (Text.trim rest) with
  | none =>
    rw [unit] at read
    exact ⟨.unknownUnit _, trivial, read⟩
  | some scale =>
    rw [unit] at read
    refine ⟨.notANumber, trivial, read.trans (scaleNumber_malformed pointed ?_ scale)⟩
    intro decimal
    exact h ⟨number, scale, isQuantity_of_parts parts decimal unit⟩

/-- Behind a number, a unit that is no spelling makes the text malformed. -/
theorem readMemory_unknown_unit {s number blanks unit : List Char}
    (parts : Text.trim s = number ++ blanks ++ unit) (pointed : IsPointed number)
    (hb : IsBlanks blanks) (apart : StandsApart unit) (unknown : Scale.ofUnit? unit = none) :
    ∃ reason : Reason, reason.IsSyntactic ∧ readMemory s = .error reason := by
  obtain ⟨stop, trimmed⟩ := apart.behind_blanks hb
  rw [List.append_assoc] at parts
  by_cases none : number = []
  · subst none
    exact readMemory_without_number (by rwa [parts])
  · have read := readMemory_of_parts parts none pointed stop
    rw [trimmed, unknown] at read
    exact ⟨.unknownUnit _, trivial, read⟩

/-- A quantity has at most one point, the one in its number. -/
theorem IsQuantity.count_point {s number : List Char} {scale : Scale}
    (h : IsQuantity s number scale) : s.count '.' ≤ 1 := by
  obtain ⟨blanks, unit, rfl, decimal, hb, spelling⟩ := h
  have no_blank : '.' ∉ blanks := fun hc => absurd (hb _ hc) (by decide)
  have in_number : number.count '.' ≤ 1 := by
    cases decimal with
    | whole digits =>
      rw [List.count_eq_zero_of_not_mem fun hc => absurd (digits.2 _ hc) (by decide)]
      exact Nat.zero_le 1
    | @pointed whole fraction digits =>
      have none : (whole ++ fraction).count '.' = 0 :=
        List.count_eq_zero_of_not_mem fun hc => absurd (digits.2 _ hc) (by decide)
      rw [List.count_append] at none
      rw [List.count_append, List.count_cons_self]
      omega
  have no_unit : '.' ∉ unit := fun hc => (spelling.standsApart.1 _ hc).2 rfl
  rw [List.count_append, List.count_append, List.count_eq_zero_of_not_mem no_blank,
    List.count_eq_zero_of_not_mem no_unit]
  exact in_number

end Provision.Quantity
