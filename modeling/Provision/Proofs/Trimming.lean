import Mathlib
import Provision.Text.Blank

/-!
# Trimming

What is left of a text between its outermost characters that are not white space.

- `trim_nil_iff`: trimming leaves nothing exactly when the text is blank throughout.
- `trim_blank_append`, `trim_append_blank`: white space in front or behind makes no difference.
- `trim_front`, `trim_concat`: a text is trimmed up to its characters that are not white space.
- `trim_solid`: a text without white space stays as it is.
- `getLast?_trim`, `trim_rest`: no white space is left at the end of a trimmed text, nor at the end
  of any rest of it.
- `trim_left`: nor is any left at the start of a front of it.
-/

namespace Provision.Text

/-- Nothing but white space. -/
def IsBlanks (s : List Char) : Prop := ∀ c ∈ s, isBlank c = true

theorem trimStart_append {blanks : List Char} (h : IsBlanks blanks) (s : List Char) :
    trimStart (blanks ++ s) = trimStart s := List.dropWhile_append_of_pos h

theorem trimStart_eq {s : List Char} (h : ∀ c ∈ s.head?, isBlank c = false) : trimStart s = s := by
  cases s with
  | nil => rfl
  | cons c r => exact List.dropWhile_cons_of_neg (by simp [h c rfl])

theorem trimEnd_eq {s : List Char} (h : ∀ c ∈ s.getLast?, isBlank c = false) : trimEnd s = s := by
  have reversed : trimStart s.reverse = s.reverse := by
    apply trimStart_eq
    rw [List.head?_reverse]
    exact h
  unfold trimStart at reversed
  rw [trimEnd, reversed, List.reverse_reverse]

theorem trim_nil_iff {s : List Char} : trim s = [] ↔ IsBlanks s := by
  simp only [trim, trimEnd, trimStart, List.reverse_eq_nil_iff, List.dropWhile_eq_nil_iff,
    List.mem_reverse]
  constructor
  · intro h
    rw [IsBlanks, ← List.dropWhile_eq_nil_iff]
    cases hs : s.dropWhile isBlank with
    | nil => rfl
    | cons a r =>
      have ha := h a (by simp [hs])
      have hn := List.head?_dropWhile_not isBlank s
      simp [hs, ha] at hn
  · exact fun h c hc => h c ((List.dropWhile_sublist _).subset hc)

theorem trim_solid {s : List Char} (h : ∀ c ∈ s, isBlank c = false) : trim s = s := by
  rw [trim, trimStart_eq fun c hc => h c (List.mem_of_mem_head? hc)]
  exact trimEnd_eq fun c hc => h c (List.mem_of_mem_getLast? hc)

theorem trim_blank_append {blanks : List Char} (h : IsBlanks blanks) (s : List Char) :
    trim (blanks ++ s) = trim s := by rw [trim, trimStart_append h, trim]

theorem trimEnd_append {blanks : List Char} (h : IsBlanks blanks) (s : List Char) :
    trimEnd (s ++ blanks) = trimEnd s := by
  have reversed : IsBlanks blanks.reverse := fun c hc => h c (List.mem_reverse.mp hc)
  have dropped := trimStart_append reversed s.reverse
  unfold trimStart at dropped
  rw [trimEnd, List.reverse_append, dropped, trimEnd]

theorem trimEnd_behind {front rest : List Char} (h : ∀ c ∈ front.getLast?, isBlank c = false) :
    trimEnd (front ++ rest) = front ++ trimEnd rest := by
  have own : (front.reverse).dropWhile isBlank = front.reverse :=
    List.reverse_injective (by rw [List.reverse_reverse]; exact trimEnd_eq h)
  rw [trimEnd, List.reverse_append, List.dropWhile_append]
  split
  · rename_i blank
    rw [own, List.reverse_reverse, trimEnd, List.isEmpty_iff.mp blank, List.reverse_nil,
      List.append_nil]
  · rw [List.reverse_append, List.reverse_reverse, trimEnd]

/-- What trimming the end leaves, and the white space behind it. -/
theorem exists_trimEnd (s : List Char) : ∃ blanks, IsBlanks blanks ∧ s = trimEnd s ++ blanks := by
  refine ⟨(s.reverse.takeWhile isBlank).reverse, ?_, ?_⟩
  · intro c hc
    exact List.mem_takeWhile_imp (List.mem_reverse.mp hc)
  · rw [trimEnd, ← List.reverse_append, List.takeWhile_append_dropWhile, List.reverse_reverse]

theorem head?_trimEnd {s : List Char} {c : Char} (h : c ∈ (trimEnd s).head?) : c ∈ s.head? := by
  obtain ⟨blanks, -, parts⟩ := exists_trimEnd s
  rw [parts, List.head?_append, Option.mem_def.mp h]
  rfl

theorem trim_append_blank {blanks : List Char} (h : IsBlanks blanks) (s : List Char) :
    trim (s ++ blanks) = trim s := by
  by_cases none : IsBlanks s
  · have both : IsBlanks (s ++ blanks) := fun c hc => (List.mem_append.mp hc).elim (none c) (h c)
    rw [trim_nil_iff.mpr both, trim_nil_iff.mpr none]
  · have some : (s.dropWhile isBlank).isEmpty = false := by
      rw [List.isEmpty_eq_false_iff, ne_eq, List.dropWhile_eq_nil_iff]
      exact none
    rw [trim, trimStart, List.dropWhile_append, if_neg (by simp [some]), trimEnd_append h]
    rfl

theorem trim_trimStart (s : List Char) : trim (trimStart s) = trim s := by
  have front : IsBlanks (s.takeWhile isBlank) := fun c hc => List.mem_takeWhile_imp hc
  rw [← trim_blank_append front, trimStart, List.takeWhile_append_dropWhile]

theorem trim_trimEnd (s : List Char) : trim (trimEnd s) = trim s := by
  obtain ⟨blanks, hb, parts⟩ := exists_trimEnd s
  conv_rhs => rw [parts, trim_append_blank hb]

/-- Behind a front without white space at its ends only the end of the rest is trimmed. -/
theorem trim_front {front rest : List Char} (nonempty : front ≠ [])
    (solid : ∀ c ∈ front, isBlank c = false) : trim (front ++ rest) = front ++ trimEnd rest := by
  have first : ∀ c ∈ (front ++ rest).head?, isBlank c = false := by
    rw [List.head?_append_of_ne_nil _ nonempty]
    exact fun c hc => solid c (List.mem_of_mem_head? hc)
  rw [trim, trimStart_eq first, trimEnd_behind fun c hc => solid c (List.mem_of_mem_getLast? hc)]

/-- In front of a last character that is not white space only the start is trimmed. -/
theorem trim_concat {s : List Char} {c : Char} (solid : isBlank c = false) :
    trim (s ++ [c]) = trimStart s ++ [c] := by
  have start : trimStart (s ++ [c]) = trimStart s ++ [c] := by
    rw [trimStart, List.dropWhile_append, trimStart]
    split
    · rename_i blank
      rw [List.isEmpty_iff.mp blank, List.nil_append, List.dropWhile_cons_of_neg (by simp [solid])]
    · rfl
  rw [trim, start]
  apply trimEnd_eq
  rw [List.getLast?_concat]
  rintro _ ⟨⟩
  exact solid

/-- No white space is left at the end. -/
theorem getLast?_trim {s : List Char} {c : Char} (h : c ∈ (trim s).getLast?) :
    isBlank c = false := by
  rw [trim, trimEnd, List.getLast?_reverse] at h
  have stop := List.head?_dropWhile_not isBlank (trimStart s).reverse
  rw [Option.mem_def.mp h] at stop
  simpa using stop

/-- Nor is any left at the end of a rest, so that trimming a rest again drops only what is in
front. -/
theorem trim_rest {s front rest : List Char} (h : trim s = front ++ rest) :
    trim rest = trimStart rest := by
  apply trimEnd_eq
  intro c hc
  obtain ⟨blanks, hr⟩ : trimStart rest <:+ rest := List.dropWhile_suffix _
  have last : (trim s).getLast? = some c := by
    rw [h, ← hr, List.getLast?_append, List.getLast?_append, Option.mem_def.mp hc]
    rfl
  exact getLast?_trim last

/-- None is left in front either, so that trimming a front again drops only what is behind it. -/
theorem trim_left {s front rest : List Char} (h : trim s = front ++ rest) :
    trim front = trimEnd front := by
  rw [trim, trimStart_eq]
  intro c hc
  have first : c ∈ (trim s).head? := by
    rw [h, List.head?_append, Option.mem_def.mp hc]
    rfl
  have stop := List.head?_dropWhile_not isBlank s
  rw [← trimStart, Option.mem_def.mp (head?_trimEnd first)] at stop
  simpa using stop

/-! ## Runs of characters of one kind -/

section
variable {p : Char → Bool} {run rest : List Char} (all : ∀ c ∈ run, p c = true)
  (stop : ∀ c ∈ rest.head?, p c = false)
include all stop

theorem takeWhile_run : (run ++ rest).takeWhile p = run := by
  rw [List.takeWhile_append_of_pos all]
  cases rest with
  | nil => simp
  | cons c r => simp [stop c rfl]

theorem dropWhile_run : (run ++ rest).dropWhile p = rest := by
  rw [List.dropWhile_append_of_pos all]
  cases rest with
  | nil => simp
  | cons c r => simp [stop c rfl]

end

theorem isBlank_of_digit {c : Char} (h : c.isDigit = true) : isBlank c = false := by
  simp only [Char.isDigit, Bool.and_eq_true, decide_eq_true_eq, ge_iff_le,
    UInt32.le_iff_toNat_le] at h
  have lower : 48 ≤ c.toNat := h.1
  have upper : c.toNat ≤ 57 := h.2
  simp only [isBlank, Bool.or_eq_false_iff, Bool.and_eq_false_iff, decide_eq_false_iff_not,
    beq_eq_false_iff_ne]
  omega

end Provision.Text
