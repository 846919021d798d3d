import Provision.Proofs.Numerals
import Provision.Proofs.Trimming
import Provision.Timestamp

/-!
# Points in time and their texts

- `read?_text`: a point in time with a date and a time of day reads back from its text.
- `read?_proper`: such are all that are read, whatever offset they were written with.
-/

namespace Provision

/-! ## Fields of digits -/

namespace Number

theorem isDigits_padded (width n : Nat) : IsDigits (padded width n) := by
  have digits := isDigits_toDigits n
  refine ⟨?_, ?_⟩
  · simp [padded, digits.1]
  · intro c hc
    rcases List.mem_append.mp hc with zero | digit
    · rw [(List.mem_replicate.mp zero).2]
      rfl
    · exact digits.2 c digit

theorem digitsValue_padded (width n : Nat) : digitsValue (padded width n) = n := by
  rw [digitsValue, padded, Nat.ofDigitChars_append, Nat.ofDigitChars_replicate_zero, Nat.mul_zero,
    Nat.ofDigitChars_ten_toDigits]

theorem readNatural?_padded (width n : Nat) : readNatural? (padded width n) = some n :=
  readNatural?_eq_some_iff.mpr ⟨isDigits_padded width n, (digitsValue_padded width n).symm⟩

theorem length_padded {width n : Nat} (wide : 0 < width) (h : n < 10 ^ width) :
    (padded width n).length = width := by
  have short := (Nat.length_toDigits_le_iff (b := 10) (by decide) wide).mpr h
  rw [padded, List.length_append, List.length_replicate]
  omega

/-- Digits write a number that has no more of them. -/
theorem digitsValue_lt {s : List Char} (h : ∀ c ∈ s, c.isDigit = true) :
    digitsValue s < 10 ^ s.length := by
  induction s with
  | nil => simp [digitsValue]
  | cons c s ih =>
    have digit := h c (List.mem_cons_self ..)
    have rest := ih fun c hc => h c (List.mem_cons_of_mem _ hc)
    have small : c.toNat - '0'.toNat ≤ 9 := by
      simp only [Char.isDigit, Bool.and_eq_true, decide_eq_true_eq, ge_iff_le,
        UInt32.le_iff_toNat_le] at digit
      have upper : c.toNat ≤ 57 := digit.2
      have zero : '0'.toNat = 48 := rfl
      omega
    rw [digitsValue, Nat.ofDigitChars_cons, Nat.ofDigitChars_eq_ofDigitChars_zero, Nat.mul_zero,
      Nat.zero_add, List.length_cons, Nat.pow_succ]
    have scaled := Nat.mul_le_mul_left (10 ^ s.length) small
    rw [digitsValue] at rest
    omega

end Number

namespace Timestamp

/-! ## Dates and times -/

theorem trimStart_padded (width n : Nat) (rest : List Char) :
    Text.trimStart (Number.padded width n ++ rest) = Number.padded width n ++ rest := by
  have digits := Number.isDigits_padded width n
  apply Text.trimStart_eq
  intro c hc
  rw [List.head?_append_of_ne_nil _ digits.1] at hc
  exact Text.isBlank_of_digit (digits.2 c (List.mem_of_mem_head? hc))

section
variable {rest : List Char} (stop : ∀ c ∈ rest.head?, c.isDigit = false)
include stop

theorem digits?_padded {width n : Nat} (wide : 0 < width) (h : n < 10 ^ width) :
    digits? width (Number.padded width n ++ rest) = some (n, rest) := by
  have digits := Number.isDigits_padded width n
  have length := Number.length_padded wide h
  have taken : (Number.padded width n).take width = Number.padded width n :=
    List.take_of_length_le (by omega)
  rw [digits?, trimStart_padded]
  simp only [Text.takeWhile_run digits.2 stop, taken, Number.readNatural?_padded, Option.map_some,
    List.drop_left]

theorem year?_yearText (year : Int) : year? (Date.yearText year ++ rest) = some (year, rest) := by
  have digits := Number.isDigits_padded 4 year.natAbs
  have taken := Text.takeWhile_run digits.2 stop
  have dropped := Text.dropWhile_run digits.2 stop
  unfold Date.yearText
  split
  · rename_i small
    have read : digits? 4 (Number.padded 4 year.natAbs ++ rest) = some (year.natAbs, rest) :=
      digits?_padded stop (by decide) (by omega)
    have front : ∀ mark r, mark.isDigit = false →
        Number.padded 4 year.natAbs ++ rest ≠ mark :: r := by
      intro mark r other signed
      have := digits.2 mark (List.mem_of_mem_head? (by
        rw [← List.head?_append_of_ne_nil _ digits.1, signed]
        rfl))
      rw [other] at this
      cases this
    rw [year?, trimStart_padded]
    split
    · rename_i r signed
      exact absurd signed (front '-' r rfl)
    · rename_i r signed
      exact absurd signed (front '+' r rfl)
    · have value : Int.ofNat year.natAbs = year := by
        rw [Int.ofNat_eq_natCast]
        omega
      simp only [read, Option.map_some, value]
  · rename_i large
    by_cases negative : year < 0
    · have value : -Int.ofNat year.natAbs = year := by
        rw [Int.ofNat_eq_natCast]
        omega
      rw [if_pos negative, List.cons_append, year?, Text.trimStart_eq (by rintro c ⟨⟩; rfl)]
      simp only [taken, dropped, Number.readNatural?_padded, Option.map_some, value]
    · have value : Int.ofNat year.natAbs = year := by
        rw [Int.ofNat_eq_natCast]
        omega
      rw [if_neg negative, List.cons_append, year?, Text.trimStart_eq (by rintro c ⟨⟩; rfl)]
      simp only [taken, dropped, Number.readNatural?_padded, Option.map_some, value]

end

theorem behind?_mark {mark : Char} (h : Text.isBlank mark = false) (s : List Char) :
    behind? mark (mark :: s) = some s := by
  rw [behind?, Text.trimStart_eq (by rintro c ⟨⟩; exact h)]
  simp

theorem digits?_marked {mark : Char} (solid : mark.isDigit = false) {n : Nat} (h : n < 100)
    (rest : List Char) :
    digits? 2 (Number.padded 2 n ++ mark :: rest) = some (n, mark :: rest) := by
  apply digits?_padded _ (by decide) h
  rintro c ⟨⟩
  exact solid

theorem date?_text {date : Date} (valid : date.Valid) {rest : List Char}
    (stop : ∀ c ∈ rest.head?, c.isDigit = false) :
    date? (date.text ++ rest) = some (date, rest) := by
  have bounds := valid
  obtain ⟨-, -, hm, hm', hd, hd'⟩ := bounds
  have days : Date.daysIn date.year date.month ≤ 31 := by
    unfold Date.daysIn
    repeat' split
    all_goals omega
  have day : digits? 2 (Number.padded 2 date.day ++ rest) = some (date.day, rest) :=
    digits?_padded stop (by decide) (by omega)
  have written : date.text ++ rest = Date.yearText date.year ++
      '-' :: (Number.padded 2 date.month ++ '-' :: (Number.padded 2 date.day ++ rest)) := by
    simp [Date.text]
  generalize Number.padded 2 date.day ++ rest = days at day written
  have month : digits? 2 (Number.padded 2 date.month ++ '-' :: days) =
      some (date.month, '-' :: days) := digits?_marked rfl (by omega) days
  generalize Number.padded 2 date.month ++ '-' :: days = months at month written
  have year : year? (Date.yearText date.year ++ '-' :: months) =
      some (date.year, '-' :: months) := year?_yearText (by rintro c ⟨⟩; rfl) date.year
  have dash : ∀ s, behind? '-' ('-' :: s) = some s := behind?_mark rfl
  simp only [written, date?, year, dash, month, day, Option.bind_eq_bind, Option.bind_some]
  rw [if_pos valid]

theorem fraction?_fractionText {nanosecond : Nat} (h : nanosecond < 1000000000) {rest : List Char}
    (stop : ∀ c ∈ rest.head?, c.isDigit = false) (point : rest.head? ≠ some '.') :
    fraction? (fractionText nanosecond ++ rest) = some (nanosecond, rest) := by
  have field : ∀ width n, 0 < width → width ≤ 9 → n < 10 ^ width →
      fraction? ('.' :: Number.padded width n ++ rest) =
        some (n * Nat.pow 10 (9 - width), rest) := by
    intro width n wide narrow small
    have digits := Number.isDigits_padded width n
    have length := Number.length_padded wide small
    have taken : (Number.padded width n).take 9 = Number.padded width n :=
      List.take_of_length_le (by omega)
    rw [List.cons_append, fraction?]
    simp only [Text.takeWhile_run digits.2 stop, Text.dropWhile_run digits.2 stop, taken,
      Number.readNatural?_padded, Option.map_some, length]
  unfold fractionText
  split
  · rename_i none
    subst none
    rw [List.nil_append]
    unfold fraction?
    split
    · exact absurd rfl point
    · rfl
  · split
    · have value : nanosecond / 1000000 * Nat.pow 10 (9 - 3) = nanosecond := by
        rw [show Nat.pow 10 (9 - 3) = 1000000 from rfl]
        omega
      rw [field 3 _ (by decide) (by decide) (by omega), value]
    · split
      · have value : nanosecond / 1000 * Nat.pow 10 (9 - 6) = nanosecond := by
          rw [show Nat.pow 10 (9 - 6) = 1000 from rfl]
          omega
        rw [field 6 _ (by decide) (by decide) (by omega), value]
      · have value : nanosecond * Nat.pow 10 (9 - 9) = nanosecond := Nat.mul_one nanosecond
        rw [field 9 _ (by decide) (by decide) (by omega), value]

theorem fractionText_cases (nanosecond : Nat) :
    fractionText nanosecond = [] ∨ ∃ digits, fractionText nanosecond = '.' :: digits := by
  unfold fractionText
  repeat' split
  · exact Or.inl rfl
  all_goals exact Or.inr ⟨_, rfl⟩

/-- Points in time that a reader gives: of all others there are some that no text stands for. -/
structure Proper (t : Timestamp) : Prop where
  date : t.date.Valid
  hour : t.hour < 24
  minute : t.minute < 60
  second : t.second ≤ 60
  nanosecond : t.nanosecond < 1000000000

theorem clock?_text {t : Timestamp} (proper : t.Proper) {rest : List Char}
    (stop : ∀ c ∈ rest.head?, c.isDigit = false) (point : rest.head? ≠ some '.') :
    clock? (clockText t ++ fractionText t.nanosecond ++ rest) =
      some ((t.hour, t.minute, t.second, t.nanosecond), rest) := by
  have fraction := fraction?_fractionText proper.nanosecond stop point
  have behind : ∀ c ∈ (fractionText t.nanosecond ++ rest).head?, c.isDigit = false := by
    rcases fractionText_cases t.nanosecond with none | ⟨digits, pointed⟩
    · rw [none]
      exact stop
    · rw [pointed]
      rintro c ⟨⟩
      rfl
  have := proper.hour
  have := proper.minute
  have := proper.second
  have written : clockText t ++ fractionText t.nanosecond ++ rest = Number.padded 2 t.hour ++
      ':' :: (Number.padded 2 t.minute ++
        ':' :: (Number.padded 2 t.second ++ (fractionText t.nanosecond ++ rest))) := by
    simp [clockText]
  have second : digits? 2 (Number.padded 2 t.second ++ (fractionText t.nanosecond ++ rest)) =
      some (t.second, fractionText t.nanosecond ++ rest) :=
    digits?_padded behind (by decide) (by omega)
  generalize Number.padded 2 t.second ++ (fractionText t.nanosecond ++ rest) = seconds
    at second written
  have minute : digits? 2 (Number.padded 2 t.minute ++ ':' :: seconds) =
      some (t.minute, ':' :: seconds) := digits?_marked rfl (by omega) seconds
  generalize Number.padded 2 t.minute ++ ':' :: seconds = minutes at minute written
  have hour : digits? 2 (Number.padded 2 t.hour ++ ':' :: minutes) =
      some (t.hour, ':' :: minutes) := digits?_marked rfl (by omega) minutes
  have colon : ∀ s, behind? ':' (':' :: s) = some s := behind?_mark rfl
  simp only [written, clock?, hour, colon, minute, second, fraction, Option.bind_eq_bind,
    Option.bind_some]
  rw [if_pos ⟨proper.hour, proper.minute, proper.second⟩]

theorem universal_zero {t : Timestamp} (hour : t.hour < 24) (minute : t.minute < 60) :
    universal t 0 = t := by
  have early : ¬Int.ofNat (60 * t.hour + t.minute) - 0 < 0 := by
    rw [Int.ofNat_eq_natCast]
    omega
  have late : Int.ofNat (60 * t.hour + t.minute) - 0 < 1440 := by
    rw [Int.ofNat_eq_natCast]
    omega
  have minutes :
      ((Int.ofNat (60 * t.hour + t.minute) - 0) % 1440).toNat = 60 * t.hour + t.minute := by
    rw [Int.ofNat_eq_natCast]
    omega
  simp only [universal, if_neg early, if_pos late, minutes]
  have hours : (60 * t.hour + t.minute) / 60 = t.hour := by omega
  have left : (60 * t.hour + t.minute) % 60 = t.minute := by omega
  rw [hours, left]

/-- **Times.** The text of a point in time reads back. -/
theorem read?_text {t : Timestamp} (proper : t.Proper) : read? t.text = some t := by
  have written : t.text.toList =
      t.date.text ++ 'T' :: (clockText t ++ fractionText t.nanosecond ++ ['Z']) := by
    simp [text]
  have clock : clock? (clockText t ++ fractionText t.nanosecond ++ ['Z']) =
      some ((t.hour, t.minute, t.second, t.nanosecond), ['Z']) :=
    clock?_text proper (by rintro c ⟨⟩; rfl) (by decide)
  generalize clockText t ++ fractionText t.nanosecond ++ ['Z'] = time at clock written
  have date : date? (t.date.text ++ 'T' :: time) = some (t.date, 'T' :: time) :=
    date?_text proper.date (by rintro c ⟨⟩; rfl)
  have offset : offset? ['Z'] = some (0, []) := rfl
  have same := universal_zero proper.hour proper.minute
  rw [read?, written, date]
  simp only [Option.bind_eq_bind, Option.bind_some, clock, offset, same]
  rw [if_pos ⟨rfl, proper.date⟩]

/-! ## What is read -/

theorem fraction?_lt {s rest : List Char} {n : Nat} (h : fraction? s = some (n, rest)) :
    n < 1000000000 := by
  unfold fraction? at h
  split at h
  · rename_i r
    obtain ⟨m, read, given⟩ := Option.map_eq_some_iff.mp h
    cases given
    obtain ⟨digits, rfl⟩ := Number.readNatural?_eq_some_iff.mp read
    have length : ((r.takeWhile Char.isDigit).take 9).length ≤ 9 := List.length_take_le ..
    have small := Number.digitsValue_lt digits.2
    generalize (r.takeWhile Char.isDigit).take 9 = run at length small ⊢
    calc Number.digitsValue run * Nat.pow 10 (9 - run.length)
        < 10 ^ run.length * 10 ^ (9 - run.length) :=
          Nat.mul_lt_mul_of_pos_right small (Nat.pow_pos (by decide))
      _ = 10 ^ 9 := by rw [← Nat.pow_add, Nat.add_sub_cancel' length]
  · cases h
    decide

theorem clock?_bounds {s rest : List Char} {hour minute second nanosecond : Nat}
    (h : clock? s = some ((hour, minute, second, nanosecond), rest)) :
    hour < 24 ∧ minute < 60 ∧ second ≤ 60 ∧ nanosecond < 1000000000 := by
  simp only [clock?, Option.bind_eq_bind, Option.bind_eq_some_iff] at h
  obtain ⟨hours, -, _, -, minutes, -, _, -, seconds, -, nanoseconds, fraction, h⟩ := h
  split at h
  · rename_i bounds
    cases h
    exact ⟨bounds.1, bounds.2.1, bounds.2.2, fraction?_lt fraction⟩
  · cases h

theorem universal_proper {t : Timestamp} {offset : Int} (second : t.second ≤ 60)
    (nanosecond : t.nanosecond < 1000000000) (valid : (universal t offset).date.Valid) :
    (universal t offset).Proper := by
  refine ⟨valid, ?_, ?_, second, nanosecond⟩
  · simp only [universal]
    omega
  · simp only [universal]
    omega

theorem read?_proper {s : String} {t : Timestamp} (h : read? s = some t) : t.Proper := by
  simp only [read?, Option.bind_eq_bind, Option.bind_eq_some_iff] at h
  obtain ⟨_, -, h⟩ := h
  split at h
  case h_4 => cases h
  all_goals
    simp only [Option.bind_some, Option.bind_eq_some_iff] at h
    obtain ⟨_, clock, _, -, h⟩ := h
    obtain ⟨-, -, second, nanosecond⟩ := clock?_bounds clock
    split at h
    · rename_i valid
      cases h
      exact universal_proper second nanosecond valid.2
    · cases h

end Timestamp
end Provision
