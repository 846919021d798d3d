import Provision.Fault
import Provision.Proofs.SignedNumerals

/-!
# Quantities of cores

The texts that are read as processor time are the numerals, with at most one mark of a unit behind
them, whose double is finite and not below zero.

- `isMarked_iff`: of a text that ends with a mark exactly that one mark is taken off.
- `readCpu_eq_ok_iff`: what is read is the double of the numeral, in the unit of the mark.
- `MeansCores.exists_front`: an accepted text starts with its numeral, so that it starts with no
  word and is not made of marks alone.
- `meansCores_negative_iff`: behind a minus a numeral is accepted only where it rounds to zero.
- `parseCpu_reads`: these texts are accepted, and all others are refused under their own name.
-/

namespace Provision.Quantity

open Number

/-- The marks of the units, and how many of the unit make one core. -/
inductive IsCoreMark : Char → Float → Prop where
  | milli : IsCoreMark 'm' 1e3
  | micro : IsCoreMark 'u' 1e6
  | nano : IsCoreMark 'n' 1e9

/-- A text without the one mark behind it, if there is one, and how many of its unit make one
core. -/
inductive IsMarked : List Char → List Char → Float → Prop where
  | bare {s : List Char} (unmarked : ∀ c ∈ s.getLast?, ∀ perCore, ¬ IsCoreMark c perCore) :
    IsMarked s s 1
  | marked {number : List Char} {mark : Char} {perCore : Float} (known : IsCoreMark mark perCore) :
    IsMarked (number ++ [mark]) number perCore

/-- A text that is a numeral and perhaps a mark means the double of the numeral, in cores, where
that is finite and not below zero. -/
inductive MeansCores (s : List Char) : Float → Prop where
  | read {number : List Char} {perCore x : Float} {negative : Bool} {q : ℚ}
    (split : IsMarked (Text.trim s) number perCore)
    (numeral : IsNumeral (Text.trim number) negative q) (rounded : IsRounded x negative q)
    (finite : x.isFinite = true) (nonneg : 0 ≤ x) : MeansCores s (x / perCore)

/-- A word for a value that no numeral has, in any case. -/
def IsWord (s : List Char) : Prop :=
  s.map Char.toLower ∈
    [['i', 'n', 'f'], ['i', 'n', 'f', 'i', 'n', 'i', 't', 'y'], ['n', 'a', 'n']]

/-! ## Marks -/

theorem IsCoreMark.splitCoreUnit_concat {mark : Char} {perCore : Float}
    (known : IsCoreMark mark perCore) (number : List Char) :
    splitCoreUnit (number ++ [mark]) = (number, perCore) := by
  cases known <;> simp [splitCoreUnit]

theorem splitCoreUnit_bare {s : List Char}
    (unmarked : ∀ c ∈ s.getLast?, ∀ perCore, ¬ IsCoreMark c perCore) :
    splitCoreUnit s = (s, 1) := by
  unfold splitCoreUnit
  split
  · rename_i last
    exact absurd .milli (unmarked _ last _)
  · rename_i last
    exact absurd .micro (unmarked _ last _)
  · rename_i last
    exact absurd .nano (unmarked _ last _)
  · rfl

/-- **Marks.** One mark is taken off a text that ends with one, and nothing off any other. -/
theorem isMarked_iff {s number : List Char} {perCore : Float} :
    IsMarked s number perCore ↔ splitCoreUnit s = (number, perCore) := by
  constructor
  · rintro (unmarked | known)
    · exact splitCoreUnit_bare unmarked
    · exact known.splitCoreUnit_concat number
  · intro split
    by_cases marked : ∃ c ∈ s.getLast?, ∃ perCore, IsCoreMark c perCore
    · obtain ⟨mark, last, _, known⟩ := marked
      obtain ⟨front, rfl⟩ := List.getLast?_eq_some_iff.mp last
      rw [known.splitCoreUnit_concat] at split
      cases split
      exact .marked known
    · push Not at marked
      rw [splitCoreUnit_bare marked] at split
      cases split
      exact .bare marked

/-- A trimmed text starts with what is left of its number when that is trimmed as well. -/
theorem IsMarked.exists_behind {s number : List Char} {perCore : Float}
    (h : IsMarked (Text.trim s) number perCore) :
    ∃ behind, Text.trim s = Text.trim number ++ behind := by
  obtain ⟨mark, parts⟩ : ∃ mark, Text.trim s = number ++ mark := by
    generalize Text.trim s = t at h
    cases h with
    | bare => exact ⟨[], (List.append_nil _).symm⟩
    | marked known => exact ⟨_, rfl⟩
  obtain ⟨blanks, -, gap⟩ := Text.exists_trimEnd number
  refine ⟨blanks ++ mark, ?_⟩
  rw [Text.trim_left parts, ← List.append_assoc, ← gap, parts]

/-! ## Reading -/

theorem isCoreCount_iff {x : Float} : isCoreCount x = true ↔ x.isFinite = true ∧ 0 ≤ x := by
  rw [isCoreCount, Bool.and_eq_true, decide_eq_true_iff]

theorem readCpu_eq_ok_iff {s : List Char} {cores : Float} :
    readCpu s = .ok cores ↔ MeansCores s cores := by
  constructor
  · intro read
    unfold readCpu at read
    dsimp only at read
    split at read
    · cases read
    · rcases split : splitCoreUnit (Text.trim s) with ⟨number, perCore⟩
      rw [split] at read
      dsimp only at read
      split at read
      · cases read
      · rename_i x value
        split at read
        · rename_i counted
          cases read
          obtain ⟨finite, nonneg⟩ := isCoreCount_iff.mp counted
          obtain ⟨negative, q, numeral, rounded⟩ := (readFloat?_eq_some_iff finite).mp value
          exact .read (isMarked_iff.mpr split) numeral rounded finite nonneg
        · cases read
  · rintro @⟨number, perCore, x, negative, q, split, numeral, rounded, finite, nonneg⟩
    have value := (readFloat?_eq_some_iff finite).mpr ⟨negative, q, numeral, rounded⟩
    have some : (Text.trim s).isEmpty = false := by
      obtain ⟨behind, parts⟩ := split.exists_behind
      simp [parts, numeral.ne_nil]
    unfold readCpu
    simp only [some, isMarked_iff.mp split, value, isCoreCount_iff.mpr ⟨finite, nonneg⟩]
    rfl

/-- An accepted text starts with a numeral. -/
theorem MeansCores.exists_front {s : List Char} {cores : Float} (h : MeansCores s cores) :
    ∃ numeral behind negative q, Text.trim s = numeral ++ behind ∧
      IsNumeral numeral negative q := by
  cases h with
  | read split numeral =>
    obtain ⟨behind, parts⟩ := split.exists_behind
    exact ⟨_, behind, _, _, parts, numeral⟩

/-! ## Words and marks that are left -/

theorem IsWord.exists_letter {s : List Char} (h : IsWord s) :
    ∃ c rest, s = c :: rest ∧ (c.toLower = 'i' ∨ c.toLower = 'n') := by
  cases s with
  | nil => simp [IsWord] at h
  | cons c rest =>
    refine ⟨c, rest, rfl, ?_⟩
    simp only [IsWord, List.map_cons, List.mem_cons, List.not_mem_nil, or_false] at h
    rcases h with h | h | h <;> simp [(List.cons.inj h).1]

/-- Whatever stands behind a word, it is no numeral with a mark. -/
theorem not_meansCores_word {s sign word behind : List Char} {negative : Bool} {cores : Float}
    (parts : Text.trim s = sign ++ word ++ behind) (signed : IsSign sign negative)
    (spelled : IsWord word) : ¬ MeansCores s cores := by
  intro means
  obtain ⟨numeral, rest, minus, q, front, written⟩ := means.exists_front
  obtain ⟨letter, tail, rfl, lower⟩ := spelled.exists_letter
  have unsigned : letter ≠ '+' ∧ letter ≠ '-' := by
    constructor <;> rintro rfl <;> rcases lower with lower | lower <;> contradiction
  have same : numeral ++ rest = sign ++ letter :: (tail ++ behind) := by
    rw [← front, parts, List.append_assoc, List.cons_append]
  have numeric := written.head_eq signed unsigned same
  rw [toLower_of_digit numeric] at lower
  rcases lower with rfl | rfl <;> rcases numeric with digit | point <;> contradiction

theorem IsCoreMark.not_numeric {mark : Char} {perCore : Float} (h : IsCoreMark mark perCore) :
    ¬ (mark.isDigit = true ∨ mark = '.') := by
  cases h <;> decide

theorem IsCoreMark.not_blank {mark : Char} {perCore : Float} (h : IsCoreMark mark perCore) :
    Text.isBlank mark = false := by
  cases h <;> rfl

/-- A mark that is left at the end is no part of a numeral. -/
theorem not_isNumeral_marked {number gap : List Char} {mark : Char} {perCore : Float}
    {negative : Bool} {q : ℚ} (known : IsCoreMark mark perCore) (blank : Text.IsBlanks gap) :
    ¬ IsNumeral (Text.trim (number ++ [mark] ++ gap)) negative q := by
  intro numeral
  obtain ⟨c, last, numeric⟩ := numeral.exists_getLast
  rw [Text.trim_append_blank blank, Text.trim_concat known.not_blank, List.getLast?_concat] at last
  cases last
  exact known.not_numeric numeric

theorem not_meansCores_doubled {s number gap : List Char} {mark last : Char}
    {perCore perCore' cores : Float} (parts : Text.trim s = number ++ [mark] ++ gap ++ [last])
    (known : IsCoreMark mark perCore) (blank : Text.IsBlanks gap)
    (known' : IsCoreMark last perCore') : ¬ MeansCores s cores := by
  rintro @⟨_, _, x, negative, q, split, numeral, -, -, -⟩
  rw [parts, isMarked_iff, known'.splitCoreUnit_concat] at split
  cases split
  exact not_isNumeral_marked known blank numeral

theorem not_meansCores_marks {s : List Char} {cores : Float}
    (h : ∀ c ∈ Text.trim s, ∃ perCore, IsCoreMark c perCore) : ¬ MeansCores s cores := by
  intro means
  obtain ⟨numeral, rest, minus, q, front, written⟩ := means.exists_front
  obtain ⟨c, last, numeric⟩ := written.exists_getLast
  have member : c ∈ Text.trim s := by
    rw [front]
    exact List.mem_append_left _ (List.mem_of_getLast? last)
  obtain ⟨perCore, known⟩ := h c member
  exact known.not_numeric numeric

/-! ## Negative numerals -/

/-- Behind a minus a numeral is accepted up to half of the least double; that is read as zero. -/
theorem meansCores_negative_iff {s number : List Char} {perCore : Float} {q : ℚ}
    (split : IsMarked (Text.trim s) number perCore)
    (numeral : IsNumeral (Text.trim number) true q) :
    (∃ cores, MeansCores s cores) ↔ q ≤ 2 ^ (-1075 : Int) := by
  obtain ⟨n, read, negative, rfl⟩ := isNumeral_iff.mp numeral
  constructor
  · rintro ⟨_, @⟨number', perCore', x, negative', q', split', numeral', rounded, finite, nonneg⟩⟩
    have same := (isMarked_iff.mp split).symm.trans (isMarked_iff.mp split')
    cases same
    obtain ⟨n', read', rfl, rfl⟩ := isNumeral_iff.mp numeral'
    cases read.symm.trans read'
    rw [negative] at rounded
    exact (rounded.nonneg_iff finite).mp nonneg
  · intro tiny
    have rounded := isRounded_toFloat n
    have finite := rounded.isFinite_of_tiny tiny
    rw [negative] at rounded
    exact ⟨_, .read split numeral rounded finite ((rounded.nonneg_iff finite).mpr tiny)⟩

end Provision.Quantity

namespace Provision

open Number Quantity

/-! ## Texts -/

/-- The text is refused, and named in the fault. -/
def RefusesCores (text : String) : Prop :=
  ∃ reason, parseCpu text = .error (.quantity text reason)

theorem refusesCores_iff {text : String} :
    RefusesCores text ↔ ∀ cores, ¬ MeansCores text.toList cores := by
  unfold RefusesCores parseCpu
  simp only [← readCpu_eq_ok_iff]
  cases readCpu text.toList with
  | ok cores =>
    refine iff_of_false ?_ fun unread => unread cores rfl
    rintro ⟨reason, refused⟩
    cases refused
  | error reason =>
    refine iff_of_true ⟨reason, rfl⟩ fun cores read => ?_
    cases read

/-- What becomes of a text that is read as cores. -/
structure ReadsCores (text : String) : Prop where
  accepted_iff (cores : Float) : parseCpu text = .ok cores ↔ MeansCores text.toList cores
  refused_iff : RefusesCores text ↔ ∀ cores, ¬ MeansCores text.toList cores
  /-- Nothing at all, or nothing but marks of units. -/
  marks (only : ∀ c ∈ Text.trim text.toList, ∃ perCore, IsCoreMark c perCore) : RefusesCores text
  /-- A word for no number or for an infinity, whatever stands behind it. -/
  word {sign word behind : List Char} {negative : Bool} (signed : IsSign sign negative)
    (spelled : IsWord word) (parts : Text.trim text.toList = sign ++ word ++ behind) :
    RefusesCores text
  /-- Two marks, with or without white space between them. -/
  doubled {number gap : List Char} {mark last : Char} {perCore perCore' : Float}
    (known : IsCoreMark mark perCore) (known' : IsCoreMark last perCore')
    (blank : Text.IsBlanks gap)
    (parts : Text.trim text.toList = number ++ [mark] ++ gap ++ [last]) : RefusesCores text
  /-- A numeral behind a minus, unless it rounds to zero. -/
  negative {number : List Char} {perCore : Float} {q : ℚ}
    (split : IsMarked (Text.trim text.toList) number perCore)
    (numeral : IsNumeral (Text.trim number) true q) :
    RefusesCores text ↔ 2 ^ (-1075 : Int) < q

/-- **Cores.** Exactly the numerals that are finite and not below zero, with at most one mark, are
read, to their double in cores; any other text is refused under its own name. -/
theorem parseCpu_reads (text : String) : ReadsCores text where
  accepted_iff cores := by rw [parseCpu_ok_iff, readCpu_eq_ok_iff]
  refused_iff := refusesCores_iff
  marks only := refusesCores_iff.mpr fun _ => not_meansCores_marks only
  word signed spelled parts := refusesCores_iff.mpr fun _ =>
    not_meansCores_word parts signed spelled
  doubled known known' blank parts := refusesCores_iff.mpr fun _ =>
    not_meansCores_doubled parts known blank known'
  negative split numeral := by
    rw [refusesCores_iff, ← not_exists, meansCores_negative_iff split numeral, not_le]

/-- Zero behind a minus is accepted; five are not, nor are words that end like a unit, nor two
units. -/
theorem parseCpu_reads_narrow : ¬ RefusesCores " -0. m" ∧ RefusesCores "-5n" ∧
    RefusesCores "-iNFn" ∧ RefusesCores "NaN" ∧ RefusesCores "2m n" := by
  have signed : IsSign ['-'] true := .minus
  refine ⟨?_, ?_, ?_, ?_, ?_⟩
  · have trimmed : Text.trim " -0. m".toList = ['-', '0', '.', ' '] ++ ['m'] := by decide +kernel
    have split : IsMarked (Text.trim " -0. m".toList) ['-', '0', '.', ' '] 1e3 :=
      trimmed ▸ .marked .milli
    have numeral : IsNumeral ['-', '0', '.'] true (decimalValue ['0', '.'] * 10 ^ (0 : Int)) :=
      .parts signed (@IsDecimal.pointed ['0'] [] (by decide)) .none
    have zero : decimalValue ['0', '.'] = 0 := by decide +kernel
    rw [zero, zero_mul] at numeral
    rw [(parseCpu_reads " -0. m").negative split numeral, not_lt]
    positivity
  · have trimmed : Text.trim "-5n".toList = ['-', '5'] ++ ['n'] := by decide +kernel
    have split : IsMarked (Text.trim "-5n".toList) ['-', '5'] 1e9 := trimmed ▸ .marked .nano
    have numeral : IsNumeral ['-', '5'] true (decimalValue ['5'] * 10 ^ (0 : Int)) :=
      .parts signed (@IsDecimal.whole ['5'] (by decide)) .none
    have five : decimalValue ['5'] = 5 := by decide +kernel
    rw [five, zpow_zero, mul_one] at numeral
    rw [(parseCpu_reads "-5n").negative split numeral]
    exact lt_of_le_of_lt (zpow_le_one_of_nonpos₀ one_le_two (by decide)) (by norm_num)
  · have trimmed : Text.trim "-iNFn".toList = ['-'] ++ ['i', 'N', 'F'] ++ ['n'] := by decide +kernel
    exact (parseCpu_reads "-iNFn").word signed (by simp [IsWord]) trimmed
  · have trimmed : Text.trim "NaN".toList = [] ++ ['N', 'a', 'N'] ++ [] := by decide +kernel
    exact (parseCpu_reads "NaN").word .none (by simp [IsWord]) trimmed
  · have trimmed : Text.trim "2m n".toList = ['2'] ++ ['m'] ++ [' '] ++ ['n'] := by decide +kernel
    have blank : Text.IsBlanks [' '] := by simp [Text.IsBlanks, Text.isBlank]
    exact (parseCpu_reads "2m n").doubled .milli .nano blank trimmed

end Provision
