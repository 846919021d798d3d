import Provision.Proofs.MemoryGrammar

/-!
# White space in quantities

A quantity is the same with and without white space around it, and between its number and its unit.
A text that is none is refused for the same reason.

- `readMemory_gap`: the number ends where it ends without the gap, and the unit is trimmed anyway.
- `readCpu_gap`: the mark of a unit of cores is the last character, and what is left is trimmed.
- `quantities_ignore_blanks`: so neither reader sees white space at these places.
-/

namespace Provision.Quantity

open Number (IsPointed)
open Text (IsBlanks)

/-! ## Memory -/

theorem isBlank_of_isNumeric {c : Char} (h : isNumeric c = true) : Text.isBlank c = false := by
  by_contra blank
  rw [isNumeric_of_blank (Bool.not_eq_false _ ▸ blank)] at h
  cases h

theorem readMemory_congr {s t : List Char} (h : Text.trim s = Text.trim t) :
    readMemory s = readMemory t := by
  unfold readMemory
  rw [h]

/-- Behind a number only the trimmed rest is looked at. -/
theorem readMemory_behind {number rest other : List Char} (nonempty : number ≠ [])
    (pointed : IsPointed number) (stop : ∀ c ∈ rest.head?, isNumeric c = false)
    (stop' : ∀ c ∈ other.head?, isNumeric c = false) (h : Text.trim rest = Text.trim other) :
    readMemory (number ++ rest) = readMemory (number ++ other) := by
  have solid : ∀ c ∈ number, Text.isBlank c = false :=
    fun c hc => isBlank_of_isNumeric (isNumeric_iff.mpr (pointed c hc))
  rw [readMemory_of_parts (Text.trim_front nonempty solid) nonempty pointed
      fun c hc => stop c (Text.head?_trimEnd hc),
    readMemory_of_parts (Text.trim_front nonempty solid) nonempty pointed
      fun c hc => stop' c (Text.head?_trimEnd hc),
    Text.trim_trimEnd, Text.trim_trimEnd, h]

theorem readMemory_gap {number gap unit : List Char} (pointed : IsPointed number)
    (hg : IsBlanks gap) (stop : ∀ c ∈ unit.head?, isNumeric c = false) :
    readMemory (number ++ (gap ++ unit)) = readMemory (number ++ unit) := by
  by_cases nonempty : number = []
  · rw [nonempty]
    exact readMemory_congr (Text.trim_blank_append hg unit)
  · have behind : ∀ c ∈ (gap ++ unit).head?, isNumeric c = false := by
      cases gap with
      | nil => exact stop
      | cons b bs =>
        rintro c ⟨⟩
        exact isNumeric_of_blank (hg b (List.mem_cons_self ..))
    exact readMemory_behind nonempty pointed behind stop (Text.trim_blank_append hg unit)

/-! ## Cores -/

theorem readCpu_congr {s t : List Char} (h : Text.trim s = Text.trim t) :
    readCpu s = readCpu t := by
  unfold readCpu
  rw [h]

/-- What stands in front of the mark of a unit counts for what it is without the white space around
it. -/
theorem readCpu_marked {s t : List Char} {mark : Char} (known : mark ∈ ['m', 'u', 'n'])
    (h : Text.trim s = Text.trim t) : readCpu (s ++ [mark]) = readCpu (t ++ [mark]) := by
  have solid : Text.isBlank mark = false := by
    simp only [List.mem_cons, List.not_mem_nil, or_false] at known
    rcases known with rfl | rfl | rfl <;> rfl
  have split (s : List Char) : splitCoreUnit (s ++ [mark]) = (s, (splitCoreUnit [mark]).2) := by
    simp only [List.mem_cons, List.not_mem_nil, or_false] at known
    rcases known with rfl | rfl | rfl <;> simp [splitCoreUnit]
  simp only [readCpu, Text.trim_concat solid, split, Text.trim_trimStart, h]
  simp

theorem readCpu_gap {number gap : List Char} {mark : Char} (hg : IsBlanks gap)
    (known : mark ∈ ['m', 'u', 'n']) :
    readCpu (number ++ gap ++ [mark]) = readCpu (number ++ [mark]) :=
  readCpu_marked known (Text.trim_append_blank hg number)

end Provision.Quantity

namespace Provision

open Number (IsPointed)
open Text (IsBlanks)
open Quantity

/-! ## Texts -/

/-- Both texts have the same quantity, or both are refused for the same reason, each under its own
name. -/
def SameQuantity {α : Type} (parse : String → Except Fault α) (text other : String) : Prop :=
  (∃ quantity, parse text = .ok quantity ∧ parse other = .ok quantity) ∨
    ∃ reason, parse text = .error (.quantity text reason) ∧
      parse other = .error (.quantity other reason)

theorem sameQuantity_of_read {α : Type} (read : List Char → Except Reason α) {text other : String}
    (h : read text.toList = read other.toList) :
    SameQuantity (fun text => (read text.toList).mapError (.quantity text)) text other := by
  unfold SameQuantity
  simp only [h]
  cases read other.toList with
  | ok quantity => exact Or.inl ⟨quantity, rfl, rfl⟩
  | error reason => exact Or.inr ⟨reason, rfl, rfl⟩

/-- The places of a quantity where white space is not seen. -/
structure IgnoresBlanks (before behind gap : String) : Prop where
  memory_around (text : String) : SameQuantity parseMemory (before ++ text ++ behind) text
  cpu_around (text : String) : SameQuantity parseCpu (before ++ text ++ behind) text
  memory_gap {number unit : String} (pointed : ∀ c ∈ number.toList, c.isDigit = true ∨ c = '.')
    (stop : ∀ c ∈ unit.toList.head?, ¬ (c.isDigit = true ∨ c = '.')) :
    SameQuantity parseMemory (number ++ gap ++ unit) (number ++ unit)
  cpu_gap (number : String) {mark : String} (known : mark ∈ ["m", "u", "n"]) :
    SameQuantity parseCpu (number ++ gap ++ mark) (number ++ mark)

/-- **White space never changes a quantity**, be it around the text or in front of the unit. -/
theorem quantities_ignore_blanks {before behind gap : String} (hb : IsBlanks before.toList)
    (hb' : IsBlanks behind.toList) (hg : IsBlanks gap.toList) :
    IgnoresBlanks before behind gap := by
  have around (text : String) :
      Text.trim (before ++ text ++ behind).toList = Text.trim text.toList := by
    rw [String.toList_append, String.toList_append, Text.trim_append_blank hb',
      Text.trim_blank_append hb]
  refine ⟨fun text => ?_, fun text => ?_, fun {number unit} pointed stop => ?_,
    fun number mark known => ?_⟩
  · exact sameQuantity_of_read readMemory (readMemory_congr (around text))
  · exact sameQuantity_of_read readCpu (readCpu_congr (around text))
  · apply sameQuantity_of_read readMemory
    rw [String.toList_append, String.toList_append, String.toList_append, List.append_assoc]
    refine readMemory_gap pointed hg fun c hc => ?_
    exact Bool.eq_false_iff.mpr fun numeric => stop c hc (isNumeric_iff.mp numeric)
  · apply sameQuantity_of_read readCpu
    obtain ⟨c, known, single⟩ : ∃ c ∈ ['m', 'u', 'n'], mark.toList = [c] := by
      simp only [List.mem_cons, List.not_mem_nil, or_false] at known
      rcases known with rfl | rfl | rfl
      · exact ⟨'m', by decide, rfl⟩
      · exact ⟨'u', by decide, rfl⟩
      · exact ⟨'n', by decide, rfl⟩
    rw [String.toList_append, String.toList_append, String.toList_append, single]
    exact readCpu_gap hg known

/-- An ideographic space in front, a line end behind, and a space that does not break within. -/
theorem quantities_ignore_blanks_wide :
    SameQuantity parseMemory "\u3000512 Mi\r\n" "512 Mi" ∧
      SameQuantity parseCpu "\u3000250 m\r\n" "250 m" ∧
      SameQuantity parseMemory "512\u00a0Mi" "512Mi" ∧
      SameQuantity parseCpu "250\u00a0m" "250m" := by
  have wide : IsBlanks "\u3000".toList := by simp [IsBlanks, Text.isBlank]
  have line : IsBlanks "\r\n".toList := by simp [IsBlanks, Text.isBlank]
  have fixed : IsBlanks "\u00a0".toList := by simp [IsBlanks, Text.isBlank]
  have ignored := quantities_ignore_blanks wide line fixed
  have milli : "m" ∈ ["m", "u", "n"] := List.mem_cons_self ..
  refine ⟨ignored.memory_around "512 Mi", ignored.cpu_around "250 m", ?_,
    ignored.cpu_gap "250" milli⟩
  have pointed : ∀ c ∈ "512".toList, c.isDigit = true ∨ c = '.' := by simp
  have stop : ∀ c ∈ "Mi".toList.head?, ¬ (c.isDigit = true ∨ c = '.') := by simp
  exact ignored.memory_gap pointed stop

end Provision
