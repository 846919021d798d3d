import Provision.Proofs.MemoryDoubles
import Provision.Proofs.PowerDoubles

/-!
# Which quantities of memory are refused

What is no quantity is refused for its form, and a quantity at most for its size. How large is too
large is said of the number and the unit alone: a count is refused exactly if its bytes are no count
of 64 bits, and any other number only if its bytes are, up to a few roundings.

- `unit_cases`: a unit as a double has few roundings, or is a power of ten beyond the doubles.
- `scaleFloat_refused`: what is refused by way of doubles is too large.
- `parseMemory_grammar`: what is read, what is refused and why, with the spellings that one might
  take for another.
-/

namespace Provision.Quantity

open Number
open Float.Model (Format UnpackedFloat)

/-- The roundings that lie between a number of units and their product at the most: the number and
its unit are one each, but a power of ten has one for each of its zeros, and two if it divides. No
double has more than 341 zeros. -/
def Scale.roundings : Scale → Nat
  | .power _ => 700
  | _ => 2

theorem Scale.roundings_le (scale : Scale) : scale.roundings ≤ 700 := by
  cases scale <;> simp [Scale.roundings]

theorem Scale.value_nonneg (scale : Scale) : 0 ≤ scale.value := by
  cases scale <;> simp only [Scale.value] <;> positivity

/-- The reasons that lie in the size of a quantity. A count has no bytes that are one, or its unit is
none; of any other number the bytes, its unit or itself are beyond what can be counted. -/
inductive IsTooLarge (number : List Char) (scale : Scale) : Reason → Prop where
  | count (count : IsCount number)
    (large : UInt64.size ≤ scale.floorBytes (digitsValue number) ∨ scale.IsHuge) :
    IsTooLarge number scale .overflow
  /-- The limit, up to a bit of each rounding. -/
  | bytes (fraction : ¬ IsCount number)
    (large : 2 ^ 64 ≤ exactBytes number scale + scale.roundings * 2 ^ 11) :
    IsTooLarge number scale .overflow
  /-- No double has so many zeros. -/
  | unit {e : Int} (fraction : ¬ IsCount number) (power : scale = .power e) (large : 309 ≤ e) :
    IsTooLarge number scale .overflow
  /-- The middle behind the largest double. -/
  | number (fraction : ¬ IsCount number)
    (large : (2 ^ 53 - 1 / 2) * 2 ^ (971 : Int) ≤ decimalValue number) :
    IsTooLarge number scale .negative

theorem IsTooLarge.not_syntactic {number : List Char} {scale : Scale} {reason : Reason}
    (h : IsTooLarge number scale reason) : ¬ reason.IsSyntactic := by
  cases h <;> exact id

/-! ## Units and their roundings -/

/-- The double `x` stands for `s`: it is finite, and unless it has lost bits at the bottom it is
`j` roundings away at the most. -/
structure StandsFor (j : Nat) (s : ℚ) (x : Float) : Prop where
  unsigned : Unsigned x
  finite : x.isFinite = true
  drift (normal : 2 ^ (-1021 : Int) < valueOf x) : Drift j s (valueOf x)

theorem StandsFor.of_full {x : Float} {j : Nat} {s c : ℚ} (full : IsFull x c)
    (h : Drift j s c) : StandsFor j s x :=
  ⟨full.unsigned, full.isFinite, fun _ => by rwa [full.valueOf_eq]⟩

/-- A power of ten is reached in as many roundings as it has zeros, or is no double. -/
theorem standsFor_powerOfTen (n : Nat) :
    (n ≤ 341 ∧ StandsFor n (10 ^ n) (Scale.squaring 1 10 n)) ∨ 309 ≤ n := by
  rcases reached_powerOfTen n with @⟨a, full, least, drift⟩ | ⟨infinite, -⟩
  · exact Or.inl ⟨zeros_of_full full drift, .of_full full drift⟩
  · exact Or.inr (zeros_of_infinite infinite)

/-- The inverse of a power of ten has one rounding more than twice as many, and that of infinity
is zero. -/
theorem standsFor_inverse (n : Nat) :
    StandsFor 699 (10 ^ n)⁻¹ (1 / Scale.squaring 1 10 n) := by
  have ten : (0 : ℚ) < 10 ^ n := by positivity
  rcases reached_powerOfTen n with @⟨a, full, least, drift⟩ | ⟨infinite, -⟩
  · have nearest := isNearest_div isFull_one.unsigned isFull_one.isFinite full
    rw [isFull_one.valueOf_eq, one_div] at nearest
    have atMost : a⁻¹ ≤ 2 ^ (0 : Int) := inv_le_one_of_one_le₀ least
    have finite := (nearest.le_zpow (by decide) (by decide) atMost).1
    have few := zeros_of_full full drift
    refine ⟨nearest.unsigned, finite, fun normal => ?_⟩
    have inverse := (drift.inv ten).trans (nearest.drift finite (nearest.normal normal))
    exact inverse.mono (by positivity) (by omega)
  · obtain ⟨m, e, pos, one, -, -⟩ := isFull_one
    have none : UnpackedFloat.div Format.binary64 (.finite .positive m e pos)
      (.infinity .positive) = .zero .positive := rfl
    have zero : (1 / Scale.squaring 1 10 n).toModel.unpack = .zero .positive := by
      rw [unpack_div one infinite, none]
      rfl
    have nothing : valueOf (1 / Scale.squaring 1 10 n) = 0 := by rw [valueOf, zero]
    refine ⟨?_, ?_, fun normal => ?_⟩
    · unfold Unsigned
      rw [zero]
      rfl
    · change (1 / Scale.squaring 1 10 n).toModel.unpack.isFinite = true
      rw [zero]
      rfl
    · have some : (0 : ℚ) < 2 ^ (-1021 : Int) := by positivity
      linarith

/-- A unit is not far from its double, or a power of ten that is no double. -/
theorem unit_cases {unit : List Char} {scale : Scale} (spelling : scale.Spelling unit) :
    (∃ j, j + 1 ≤ scale.roundings ∧ StandsFor j scale.value scale.toFloat) ∨
      ∃ e, scale = .power e ∧ 309 ≤ e := by
  have unpowered (h : ∀ e, scale ≠ .power e) : StandsFor 1 scale.value scale.toFloat := by
    obtain ⟨full, -⟩ := spelling.isFull_toFloat h
    obtain ⟨least, -⟩ := spelling.value_bounds h
    have normal : 2 ^ (-1021 : Int) ≤ scale.value := by
      have tiny := least_normal_le
      linarith
    exact .of_full full ((isNearest_unit h).drift full.isFinite normal)
  cases scale with
  | bytes factor => exact Or.inl ⟨1, le_rfl, unpowered fun _ power => by cases power⟩
  | milli => exact Or.inl ⟨1, le_rfl, unpowered fun _ power => by cases power⟩
  | power e =>
    by_cases negative : e < 0
    · left
      have double : (Scale.power e).toFloat = 1 / Scale.squaring 1 10 e.natAbs := if_pos negative
      have value : (Scale.power e).value = (10 ^ e.natAbs)⁻¹ := by
        rw [Scale.value, ← zpow_natCast, ← zpow_neg]
        congr 1
        omega
      rw [double, value]
      exact ⟨699, le_rfl, standsFor_inverse _⟩
    · have double : (Scale.power e).toFloat = Scale.squaring 1 10 e.natAbs := if_neg negative
      have value : (Scale.power e).value = 10 ^ e.natAbs := by
        rw [Scale.value, ← zpow_natCast]
        congr 1
        omega
      rw [double, value]
      rcases standsFor_powerOfTen e.natAbs with ⟨few, stands⟩ | many
      · have roundings : (Scale.power e).roundings = 700 := rfl
        exact Or.inl ⟨_, by omega, stands⟩
      · exact Or.inr ⟨e, rfl, by omega⟩

/-! ## What is refused -/

/-- A product beyond the limit is beyond it without its roundings, up to a bit for each. -/
theorem StandsFor.large_of_exceeds {x y : Float} {j : Nat} {d s : ℚ} (h : StandsFor j s y)
    (near : IsNearest x d) (finite : x.isFinite = true) (hd : 0 ≤ d) (hs : 0 ≤ s) (few : j ≤ 699)
    (exceeds : (x * y).isFinite = false ∨ 18446744073709551616.0 < x * y) :
    2 ^ 64 ≤ d * s + (j + 1) * 2 ^ 11 := by
  have product := isNearest_product near.unsigned h.unsigned finite h.finite
  have beyond := (exceeds_limit_iff product).mp exceeds
  -- Neither factor makes up for the other, so that both have all their bits.
  have normal {a b : ℚ} (top : b < 2 ^ (1024 : Int)) (nonneg : 0 ≤ a)
      (beyond : 2 ^ 64 + 2 ^ 11 < a * b) : 2 ^ (-1021 : Int) < a := by
    by_contra tiny
    have one : (2 : ℚ) ^ (-1021 : Int) * 2 ^ (1024 : Int) = 8 := by
      rw [← zpow_add₀ two_ne_zero]
      norm_num
    have most : a * b ≤ 2 ^ (-1021 : Int) * 2 ^ (1024 : Int) := by
      have some : (0 : ℚ) ≤ 2 ^ (1024 : Int) := by positivity
      exact (mul_le_mul_of_nonneg_left top.le nonneg).trans
        (mul_le_mul_of_nonneg_right (not_lt.mp tiny) some)
    rw [one] at most
    linarith
  have full := normal (valueOf_lt h.finite) near.unsigned.valueOf_nonneg beyond
  have full' := normal (valueOf_lt finite) h.unsigned.valueOf_nonneg (by rwa [mul_comm])
  have drift := (near.drift finite (near.normal full)).mul (h.drift full') hd hs
  by_contra small
  have small : d * s < 2 ^ 64 - (j + 1) * 2 ^ 11 := by linarith
  have digits : (j : ℚ) ≤ 699 := by exact_mod_cast few
  have product : (1 + j) * (1 + j + 1) ≤ 700 * 701 := Nat.mul_le_mul (by omega) (by omega)
  have powers := @Drift.one_add_pow_le (1 + j) (by omega)
  push_cast at powers
  have up : valueOf x * valueOf y ≤ (2 ^ 64 - (j + 1) * 2 ^ 11) * (1 + (1 + j + 1) / 2 ^ 53) := by
    refine drift.high.trans (mul_le_mul small.le powers (by positivity) ?_)
    linarith
  nlinarith

theorem scaleFloat_refused {number unit : List Char} {scale : Scale} {reason : Reason}
    (decimal : IsDecimal number) (spelling : scale.Spelling unit) (fraction : ¬ IsCount number)
    (refused : scaleFloat number scale = .error reason) : IsTooLarge number scale reason := by
  obtain ⟨x, read, near⟩ := readFloat?_of_isDecimal decimal
  by_cases finite : x.isFinite = true
  · rw [scaleFloat_eq read near.unsigned finite] at refused
    split at refused
    · rename_i exceeds
      cases refused
      rcases unit_cases spelling with ⟨j, roundings, stands⟩ | ⟨e, power, large⟩
      · have few := scale.roundings_le
        have large := stands.large_of_exceeds near finite (decimalValue_nonneg number)
          scale.value_nonneg (by omega) exceeds
        have roundings : (j : ℚ) + 1 ≤ scale.roundings := by exact_mod_cast roundings
        refine .bytes fraction ?_
        rw [exactBytes]
        linarith
      · exact .unit fraction power large
    · cases refused
  · rw [scaleFloat_infinite read (by simpa using finite)] at refused
    cases refused
    exact .number fraction (infinity_of_nearest near (by simpa using finite)).2

end Provision.Quantity

namespace Provision

open Number (IsDecimal IsPointed digitsValue)
open Text (IsBlanks)
open Quantity

section
variable {text : String} {number : List Char} {scale : Scale}

theorem parseMemory_count_iff
    (form : IsQuantity (Text.trim text.toList) number scale) (count : IsCount number) :
    (∃ bytes, parseMemory text = .ok bytes) ↔
      scale.floorBytes (digitsValue number) < UInt64.size ∧ ¬ scale.IsHuge := by
  constructor
  · rintro ⟨bytes, read⟩
    by_contra uncounted
    rw [not_and_or, not_lt, not_not] at uncounted
    rw [parseMemory_whole_refused form count.1 count.2 uncounted] at read
    cases read
  · rintro ⟨small, counted⟩
    obtain ⟨bytes, read, -⟩ := parseMemory_whole_ok form count.1 count.2 small counted
    exact ⟨bytes, read⟩

/-- A count of multiples of the byte. -/
theorem parseMemory_bytes {factor : Nat}
    (form : IsQuantity (Text.trim text.toList) number (.bytes factor)) (count : IsCount number) :
    parseMemory text = if digitsValue number * factor < UInt64.size
      then .ok (UInt64.ofNat (digitsValue number * factor))
      else .error (.quantity text .overflow) := by
  have floor := Scale.floorBytes_bytes factor (digitsValue number)
  have counted : ¬ (Scale.bytes factor).IsHuge := by
    rintro ⟨e, -, power⟩
    cases power
  split
  · rename_i small
    rw [← floor] at small
    obtain ⟨bytes, read, exact⟩ := parseMemory_whole_ok form count.1 count.2 small counted
    rw [read, Except.ok.injEq, ← UInt64.toNat_inj, exact, ← floor,
      UInt64.toNat_ofNat_of_lt' small]
  · rename_i large
    rw [← floor, not_lt] at large
    exact parseMemory_whole_refused form count.1 count.2 (Or.inl large)

/-- Of a quantity the size is all that can be wrong. -/
theorem tooLarge_of_refused {reason : Reason}
    (form : IsQuantity (Text.trim text.toList) number scale)
    (refused : parseMemory text = .error (.quantity text reason)) :
    IsTooLarge number scale reason := by
  obtain ⟨_, _, _, decimal, _, spelling⟩ := id form
  by_cases count : IsCount number
  · have large : ¬ (scale.floorBytes (digitsValue number) < UInt64.size ∧ ¬ scale.IsHuge) := by
      rw [← parseMemory_count_iff form count, refused]
      rintro ⟨_, ⟨⟩⟩
    rw [not_and_or, not_lt, not_not] at large
    rw [parseMemory_whole_refused form count.1 count.2 large] at refused
    cases refused
    exact .count count large
  · rw [parseMemory, form.readMemory, scaleNumber_eq_scaleFloat decimal count] at refused
    refine scaleFloat_refused decimal spelling count ?_
    cases read : scaleFloat number scale with
    | ok bytes =>
      rw [read] at refused
      cases refused
    | error other =>
      rw [read] at refused
      cases refused
      rfl

end

/-! ## The grammar of quantities of memory -/

/-- The text is refused for its form. -/
def IsMalformed (text : String) : Prop :=
  ∃ reason : Reason, reason.IsSyntactic ∧ parseMemory text = .error (.quantity text reason)

/-- What the grammar says about one text. -/
structure FollowsGrammar (text : String) : Prop where
  malformed_iff : IsMalformed text ↔
    ¬ ∃ number scale, IsQuantity (Text.trim text.toList) number scale
  /-- A text of the grammar is read, unless its size is beyond what can be counted. -/
  accepted {number : List Char} {scale : Scale}
    (form : IsQuantity (Text.trim text.toList) number scale)
    (counted : ∀ reason, ¬ IsTooLarge number scale reason) : ∃ bytes, parseMemory text = .ok bytes
  /-- Of a text of the grammar the size is all that can be wrong. -/
  too_large {number : List Char} {scale : Scale} {fault : Fault}
    (form : IsQuantity (Text.trim text.toList) number scale)
    (failed : parseMemory text = .error fault) :
    ∃ reason, fault = .quantity text reason ∧ IsTooLarge number scale reason
  /-- The size of a count is decided exactly. -/
  count_iff {number : List Char} {scale : Scale}
    (form : IsQuantity (Text.trim text.toList) number scale) (count : IsCount number) :
    (∃ bytes, parseMemory text = .ok bytes) ↔
      scale.floorBytes (digitsValue number) < UInt64.size ∧ ¬ scale.IsHuge
  /-- A fault names the text as it was given, with its white space. -/
  names_text {fault : Fault} (failed : parseMemory text = .error fault) :
    ∃ reason, fault = .quantity text reason
  /-- Signs and the words for infinity and for no number are not where a number is. -/
  no_sign (front : ∀ c ∈ (Text.trim text.toList).head?, ¬ (c.isDigit = true ∨ c = '.')) :
    IsMalformed text
  /-- Near misses of a unit. -/
  no_unit {number blanks : List Char} {unit : String} (pointed : IsPointed number)
    (hb : IsBlanks blanks) (parts : Text.trim text.toList = number ++ blanks ++ unit.toList)
    (near : unit ∈ ["mB", "BB", "g", "mi", "e", "e5B"]) : IsMalformed text
  one_point (points : 2 ≤ (Text.trim text.toList).count '.') : IsMalformed text
  /-- The `E` of a multiple is no exponent: the text is that many multiples of the byte, and nothing
  else. -/
  exa {number blanks : List Char} {unit : String} {factor : Nat} (decimal : IsDecimal number)
    (hb : IsBlanks blanks) (parts : Text.trim text.toList = number ++ blanks ++ unit.toList)
    (multiple : (unit, factor) ∈
      [("E", 1000 ^ 6), ("EB", 1000 ^ 6), ("Ei", 1024 ^ 6), ("EiB", 1024 ^ 6)]) :
    (∀ number' scale, IsQuantity (Text.trim text.toList) number' scale ↔
      number' = number ∧ scale = .bytes factor) ∧
    (IsCount number → parseMemory text =
      if digitsValue number * factor < UInt64.size
      then .ok (UInt64.ofNat (digitsValue number * factor))
      else .error (.quantity text .overflow))

theorem isMalformed_iff {text : String} :
    IsMalformed text ↔ ∃ reason : Reason, reason.IsSyntactic ∧
      readMemory text.toList = .error reason := by
  simp only [IsMalformed, parseMemory_error_iff, Fault.quantity.injEq, true_and,
    exists_eq_left']

/-- **Quantities of memory follow their grammar.** A text is refused for its form exactly when it is
no decimal, white space and unit; otherwise at most for its size. -/
theorem parseMemory_grammar (text : String) : FollowsGrammar text := by
  have large {number : List Char} {scale : Scale} {fault : Fault}
      (form : IsQuantity (Text.trim text.toList) number scale)
      (failed : parseMemory text = .error fault) :
      ∃ reason, fault = .quantity text reason ∧ IsTooLarge number scale reason := by
    obtain ⟨reason, rfl, -⟩ := parseMemory_error_iff.mp failed
    exact ⟨reason, rfl, tooLarge_of_refused form failed⟩
  have malformed : IsMalformed text ↔
      ¬ ∃ number scale, IsQuantity (Text.trim text.toList) number scale := by
    constructor
    · rintro ⟨reason, syntactic, refused⟩ ⟨number, scale, form⟩
      exact (tooLarge_of_refused form refused).not_syntactic syntactic
    · intro other
      exact isMalformed_iff.mpr (readMemory_malformed other)
  refine ⟨malformed, ?_, large, parseMemory_count_iff, ?_, ?_, ?_, ?_, ?_⟩
  · intro number scale form counted
    cases read : parseMemory text with
    | ok bytes => exact ⟨bytes, rfl⟩
    | error fault =>
      obtain ⟨reason, -, refused⟩ := large form read
      exact absurd refused (counted reason)
  · intro fault failed
    obtain ⟨reason, named, -⟩ := parseMemory_error_iff.mp failed
    exact ⟨reason, named⟩
  · intro front
    refine isMalformed_iff.mpr (readMemory_without_number fun c hc => ?_)
    exact Bool.eq_false_iff.mpr fun numeric => front c hc (isNumeric_iff.mp numeric)
  · intro number blanks unit pointed hb parts near
    rw [isMalformed_iff]
    simp only [List.mem_cons, List.not_mem_nil, or_false] at near
    rcases near with rfl | rfl | rfl | rfl | rfl | rfl <;>
      exact readMemory_unknown_unit parts pointed hb (by decide) rfl
  · intro points
    refine malformed.mpr fun ⟨number, scale, quantity⟩ => ?_
    have := quantity.count_point
    omega
  · intro number blanks unit factor decimal hb parts multiple
    have spelling : (Scale.bytes factor).Spelling unit.toList := by
      simp only [List.mem_cons, List.not_mem_nil, or_false, Prod.mk.injEq] at multiple
      rcases multiple with ⟨rfl, rfl⟩ | ⟨rfl, rfl⟩ | ⟨rfl, rfl⟩ | ⟨rfl, rfl⟩ <;>
        exact Scale.ofUnit?_eq_some_iff.mp rfl
    have quantity : IsQuantity (Text.trim text.toList) number (.bytes factor) :=
      ⟨blanks, unit.toList, parts, decimal, hb, spelling⟩
    refine ⟨fun number' scale => ⟨fun other => quantity.unique other, ?_⟩,
      fun count => parseMemory_bytes quantity count⟩
    rintro ⟨rfl, rfl⟩
    exact quantity

/-- A near miss behind white space, a fraction that is read, and a multiple that is one but too
large. -/
theorem parseMemory_near_miss : IsMalformed " 5 e5B\n" ∧
    (∃ bytes, parseMemory "0.5 Ei" = .ok bytes) ∧
    ∃ reason, parseMemory "20E" = .error (.quantity "20E" reason) ∧
      IsTooLarge ['2', '0'] (.bytes (1000 ^ 6)) reason := by
  refine ⟨?_, ?_, ?_⟩
  · have parts : Text.trim " 5 e5B\n".toList = ['5'] ++ [' '] ++ "e5B".toList := by decide
    have pointed : IsPointed ['5'] := by
      intro c hc
      rw [List.mem_singleton.mp hc]
      exact Or.inl rfl
    exact (parseMemory_grammar _).no_unit pointed (by simp [IsBlanks, Text.isBlank]) parts
      (by decide)
  · have digits : Number.IsDigits (['0'] ++ ['5']) := by simp [Number.IsDigits]
    have parts : Text.trim "0.5 Ei".toList = (['0'] ++ '.' :: ['5']) ++ [' ', 'E', 'i'] := rfl
    have form := @isQuantity_of_parts _ _ _ (.bytes (1024 ^ 6)) parts (.pointed digits) rfl
    have value : Number.decimalValue (['0'] ++ '.' :: ['5']) = 1 / 2 := by
      have five : digitsValue (['0'] ++ ['5']) = 5 := rfl
      rw [Number.decimalValue_pointed digits, five]
      norm_num
    have fraction : ¬ IsCount (['0'] ++ '.' :: ['5']) := by
      rintro ⟨⟨-, digits⟩, -⟩
      exact absurd (digits '.' (by decide)) (by decide)
    refine (parseMemory_grammar _).accepted form fun reason large => ?_
    cases large with
    | count count => exact fraction count
    | bytes _ large =>
      have roundings : (Scale.bytes (1024 ^ 6)).roundings = 2 := rfl
      rw [exactBytes, value, Scale.value, roundings] at large
      norm_num at large
    | unit _ power => cases power
    | number _ large =>
      have top : (1 : ℚ) ≤ 2 ^ (971 : Int) := one_le_zpow₀ one_le_two (by decide)
      rw [value] at large
      generalize (2 : ℚ) ^ (971 : Int) = last at large top
      linarith
  · have failed : parseMemory "20E" = .error (.quantity "20E" .overflow) := rfl
    have digits : Number.IsDigits ['2', '0'] := by simp [Number.IsDigits]
    have form : IsQuantity (Text.trim "20E".toList) ['2', '0'] (.bytes (1000 ^ 6)) :=
      ⟨[], ['E'], rfl, .whole digits, by simp [IsBlanks], .multiple (.decimal ⟨5, by decide⟩)⟩
    obtain ⟨reason, named, large⟩ := (parseMemory_grammar _).too_large form failed
    exact ⟨reason, by rw [failed, named], large⟩

end Provision
