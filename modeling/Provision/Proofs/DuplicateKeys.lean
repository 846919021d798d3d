import Mathlib
import Provision.Duplicates

/-!
# The two views of duplicate keys

The keys of a form are counted, and the rows that collide are listed. Both passes count for
themselves, one without the rows that are not filled in and one with them, so that they have to tell
the same.

- `countOf_tally`, `tally_ascending`: what one more key changes among the counts.
- `countOf_foldl_tally`, `foldl_tally_ascending`: so a pass counts every key as often as it occurs.
- `isDuplicate_iff_rows`, `isDuplicate_iff_other`: a key is a duplicate exactly when it is filled in
  and stands in two rows.
- `mem_counts_iff`, `lookup_counts`: a key is counted exactly when it is one, with all its rows.
- `positions_ascending`, `map_snd_positions`: the rows that collide are listed in their order.
- `count_positions`: a key has as many of them as are counted.
- `counts_eq_nil_iff`, `positions_eq_nil_iff`: there is nothing to count, and no row to list,
  exactly when the keys that are filled in differ.
- `counts_ascending`, `counts_congr`: the counts are in the order of their keys, and so depend on
  nothing but how often each key stands in a row.
- `views_agree`: the counts, the rows and the verdict together.
-/

namespace Provision.Duplicates

/-! ## Counting -/

/-- The count of a key, which is zero where the key does not stand among the counts. -/
def countOf (counts : List (String × Nat)) (key : String) : Nat := (counts.lookup key).getD 0

/-- The counts are in the order of their keys, so that each key stands there once. -/
def Ascending (counts : List (String × Nat)) : Prop := counts.Pairwise fun a b => a.1 < b.1

section
variable {counts : List (String × Nat)} {key : String}

theorem lookup_eq_some_iff_countOf {n : Nat} (pos : 0 < n) :
    counts.lookup key = some n ↔ countOf counts key = n := by
  unfold countOf
  cases counts.lookup key with
  | none => simp [Nat.ne_of_lt pos]
  | some m => simp

theorem countOf_of_lt (h : ∀ entry ∈ counts, key < entry.1) : countOf counts key = 0 := by
  have absent : counts.lookup key = none := by
    refine List.lookup_eq_none_iff.mpr fun entry member => ?_
    rw [bne_iff_ne]
    rintro rfl
    exact String.lt_irrefl _ (h entry member)
  rw [countOf, absent, Option.getD_none]

theorem Ascending.once (h : Ascending counts) : counts.Pairwise fun a b => a.1 ≠ b.1 := by
  refine h.imp fun before same => ?_
  rw [same] at before
  exact String.lt_irrefl _ before

theorem countOf_cons (other : String) (n : Nat) (rest : List (String × Nat)) (key : String) :
    countOf ((other, n) :: rest) key = if key = other then n else countOf rest key := by
  unfold countOf
  by_cases same : key = other
  · simp [same]
  · simp [List.lookup_cons, beq_false_of_ne same, same]

theorem fst_of_mem_tally {entry : String × Nat} (h : entry ∈ tally counts key) :
    entry.1 = key ∨ ∃ other ∈ counts, entry.1 = other.1 := by
  induction counts with
  | nil =>
    left
    rw [List.mem_singleton.mp h]
  | cons head rest ih =>
    obtain ⟨other, n⟩ := head
    rw [tally] at h
    split at h
    · rcases List.mem_cons.mp h with rfl | behind
      · exact Or.inr ⟨_, List.mem_cons_self .., rfl⟩
      · exact Or.inr ⟨entry, List.mem_cons_of_mem _ behind, rfl⟩
    · split at h
      · rcases List.mem_cons.mp h with rfl | behind
        · exact Or.inl rfl
        · exact Or.inr ⟨entry, behind, rfl⟩
      · rcases List.mem_cons.mp h with rfl | behind
        · exact Or.inr ⟨_, List.mem_cons_self .., rfl⟩
        · exact (ih behind).imp_right fun ⟨other, member, same⟩ =>
            ⟨other, List.mem_cons_of_mem _ member, same⟩

/-- One more key keeps the order. -/
theorem tally_ascending (h : Ascending counts) (key : String) : Ascending (tally counts key) := by
  induction counts with
  | nil => exact List.pairwise_singleton ..
  | cons head rest ih =>
    obtain ⟨other, n⟩ := head
    obtain ⟨first, behind⟩ := List.pairwise_cons.mp h
    rw [tally]
    split
    · exact List.pairwise_cons.mpr ⟨first, behind⟩
    · rename_i apart
      split
      · rename_i before
        refine List.pairwise_cons.mpr ⟨fun entry member => ?_, h⟩
        rcases List.mem_cons.mp member with rfl | later
        · exact before
        · exact String.lt_trans before (first entry later)
      · rename_i after
        refine List.pairwise_cons.mpr ⟨fun entry member => ?_, ih behind⟩
        rcases fst_of_mem_tally member with same | ⟨later, there, same⟩
        · rw [same]
          refine String.not_le.mp fun upTo => apart ?_
          exact String.le_antisymm upTo (String.not_lt.mp after)
        · rw [same]
          exact first later there

/-- One more key adds one to its own count and leaves all others. -/
theorem countOf_tally (h : Ascending counts) (key other : String) :
    countOf (tally counts key) other = countOf counts other + if other = key then 1 else 0 := by
  induction counts with
  | nil =>
    rw [tally, countOf_cons]
    exact (Nat.zero_add _).symm
  | cons head rest ih =>
    obtain ⟨first, n⟩ := head
    obtain ⟨later, behind⟩ := List.pairwise_cons.mp h
    rw [tally]
    split
    · rename_i same
      rw [countOf_cons, countOf_cons, same]
      split <;> rfl
    · rename_i apart
      split
      · rename_i before
        rw [countOf_cons]
        split
        · rename_i same
          rw [same, countOf_of_lt]
          intro entry member
          rcases List.mem_cons.mp member with rfl | there
          · exact before
          · exact String.lt_trans before (later entry there)
        · rfl
      · rw [countOf_cons, countOf_cons, ih behind]
        split
        · rename_i same
          rw [if_neg (same ▸ Ne.symm apart), Nat.add_zero]
        · rfl

theorem foldl_tally_ascending (h : Ascending counts) (keys : List String) :
    Ascending (keys.foldl tally counts) := by
  induction keys generalizing counts with
  | nil => exact h
  | cons key keys ih => exact ih (tally_ascending h key)

theorem countOf_foldl_tally (h : Ascending counts) (keys : List String) (key : String) :
    countOf (keys.foldl tally counts) key = countOf counts key + keys.count key := by
  induction keys generalizing counts with
  | nil => rfl
  | cons first keys ih =>
    rw [List.foldl_cons, ih (tally_ascending h first), countOf_tally h, List.count_cons]
    by_cases same : key = first
    · simp only [same, beq_self_eq_true, if_true]
      omega
    · simp only [same, beq_false_of_ne (Ne.symm same), if_false, Bool.false_eq_true]
      omega

end

/-- Where no key stands twice, an entry is the one that is found under its key. -/
theorem lookup_eq_some_iff_mem {α β : Type} [DecidableEq α] {entries : List (α × β)}
    (once : entries.Pairwise fun a b => a.1 ≠ b.1) {a : α} {b : β} :
    entries.lookup a = some b ↔ (a, b) ∈ entries := by
  induction entries with
  | nil => simp
  | cons head rest ih =>
    obtain ⟨first, behind⟩ := List.pairwise_cons.mp once
    rw [List.lookup_cons, List.mem_cons]
    by_cases same : a = head.1
    · rw [beq_iff_eq.mpr same]
      constructor
      · rintro ⟨⟩
        exact Or.inl (by rw [same])
      · rintro (rfl | later)
        · rfl
        · exact absurd same.symm (first _ later)
    · rw [beq_false_of_ne same]
      refine (ih behind).trans ⟨Or.inr, ?_⟩
      rintro (rfl | later)
      · exact absurd rfl same
      · exact later

/-! ## Duplicates -/

/-- A key that is filled in and stands in more than one row. -/
def isDuplicate (keys : List String) (key : String) : Bool := key != "" && 1 < keys.count key

variable {keys : List String} {key : String}

theorem isDuplicate_iff : isDuplicate keys key = true ↔ key ≠ "" ∧ 1 < keys.count key := by
  simp [isDuplicate]

theorem mem_of_isDuplicate (h : isDuplicate keys key = true) : key ∈ keys :=
  List.count_pos_iff.mp (Nat.zero_lt_of_lt (isDuplicate_iff.mp h).2)

theorem isDuplicate_iff_rows : isDuplicate keys key = true ↔
    key ≠ "" ∧ ∃ i j : Nat, i ≠ j ∧ keys[i]? = some key ∧ keys[j]? = some key := by
  rw [isDuplicate_iff, Nat.lt_iff_add_one_le, ← List.duplicate_iff_two_le_count,
    List.duplicate_iff_exists_distinct_get]
  refine and_congr_right fun _ => ?_
  constructor
  · rintro ⟨i, j, before, hi, hj⟩
    refine ⟨i, j, by omega, ?_, ?_⟩
    · rw [hi]
      exact List.getElem?_eq_getElem i.isLt
    · rw [hj]
      exact List.getElem?_eq_getElem j.isLt
  · rintro ⟨i, j, apart, hi, hj⟩
    obtain ⟨li, hi⟩ := List.getElem?_eq_some_iff.mp hi
    obtain ⟨lj, hj⟩ := List.getElem?_eq_some_iff.mp hj
    rcases Nat.lt_or_gt_of_ne apart with before | behind
    · exact ⟨⟨i, li⟩, ⟨j, lj⟩, before, hi.symm, hj.symm⟩
    · exact ⟨⟨j, lj⟩, ⟨i, li⟩, behind, hj.symm, hi.symm⟩

/-- Seen from one row, the key is a duplicate exactly when another row has it. -/
theorem isDuplicate_iff_other {i : Nat} (row : keys[i]? = some key) : isDuplicate keys key = true ↔
    key ≠ "" ∧ ∃ j : Nat, i ≠ j ∧ keys[j]? = some key := by
  rw [isDuplicate_iff_rows]
  refine and_congr_right fun _ => ⟨?_, fun ⟨j, apart, other⟩ => ⟨i, j, apart, row, other⟩⟩
  rintro ⟨j, k, apart, hj, hk⟩
  by_cases same : i = j
  · exact ⟨k, same ▸ apart, hk⟩
  · exact ⟨j, same, hj⟩

/-! ## Counts -/

/-- Leaving rows out while counting is counting the others. -/
theorem counts_eq (keys : List String) : counts keys =
    ((keys.filter (· ≠ "")).foldl tally []).filter fun entry => 1 < entry.2 := by
  have skipped : (fun (counts : List (String × Nat)) key =>
      if key = "" then counts else tally counts key) =
      fun counts key => if decide (key ≠ "") = true then tally counts key else counts := by
    funext counts key
    simp only [decide_eq_true_eq, ite_not]
  rw [counts, skipped, ← List.foldl_filter]

/-- The counts are listed key by key, in the order of the keys. -/
theorem counts_ascending (keys : List String) : (counts keys).Pairwise fun a b => a.1 < b.1 := by
  rw [counts_eq]
  exact (foldl_tally_ascending .nil _).sublist List.filter_sublist

/-- Without the rows that are not filled in, a key is counted as often as it occurs or not at
all. -/
theorem countOf_filled (keys : List String) (key : String) :
    countOf ((keys.filter (· ≠ "")).foldl tally []) key =
      if key = "" then 0 else keys.count key := by
  rw [countOf_foldl_tally .nil, countOf, List.lookup_nil, Option.getD_none, Nat.zero_add]
  split
  · rename_i empty
    simp [empty, List.count_eq_zero]
  · rename_i filled
    exact List.count_filter (by simpa using filled)

theorem mem_counts_iff {n : Nat} :
    (key, n) ∈ counts keys ↔ isDuplicate keys key = true ∧ n = keys.count key := by
  have once := (foldl_tally_ascending .nil (keys.filter (· ≠ ""))).once
  rw [counts_eq, List.mem_filter, ← lookup_eq_some_iff_mem once, isDuplicate_iff]
  simp only [decide_eq_true_eq]
  constructor
  · rintro ⟨found, twice⟩
    rw [lookup_eq_some_iff_countOf (by omega), countOf_filled] at found
    split at found
    · omega
    · rename_i filled
      exact ⟨⟨filled, by omega⟩, found.symm⟩
  · rintro ⟨⟨filled, twice⟩, rfl⟩
    rw [lookup_eq_some_iff_countOf (by omega), countOf_filled, if_neg filled]
    exact ⟨rfl, twice⟩

theorem mem_keys_counts : key ∈ (counts keys).map Prod.fst ↔ isDuplicate keys key = true := by
  rw [List.mem_map]
  constructor
  · rintro ⟨⟨_, n⟩, entry, rfl⟩
    exact (mem_counts_iff.mp entry).1
  · intro duplicate
    exact ⟨(key, keys.count key), mem_counts_iff.mpr ⟨duplicate, rfl⟩, rfl⟩

theorem lookup_counts_eq_some_iff {n : Nat} :
    (counts keys).lookup key = some n ↔ isDuplicate keys key = true ∧ n = keys.count key :=
  (lookup_eq_some_iff_mem (Ascending.once (counts_ascending keys))).trans mem_counts_iff

theorem lookup_counts (keys : List String) (key : String) :
    (counts keys).lookup key = if isDuplicate keys key then some (keys.count key) else none := by
  split
  · rename_i duplicate
    exact lookup_counts_eq_some_iff.mpr ⟨duplicate, rfl⟩
  · rename_i single
    refine Option.eq_none_iff_forall_ne_some.mpr fun n found => single ?_
    exact (lookup_counts_eq_some_iff.mp found).1

theorem counts_eq_nil_iff_isDuplicate :
    counts keys = [] ↔ ∀ key, ¬ isDuplicate keys key = true := by
  rw [← List.map_eq_nil_iff (f := Prod.fst), List.eq_nil_iff_forall_not_mem]
  simp only [mem_keys_counts]

theorem counts_eq_nil_iff : counts keys = [] ↔ (keys.filter (· ≠ "")).Nodup := by
  rw [counts_eq_nil_iff_isDuplicate, List.nodup_iff_count_le_one]
  refine forall_congr' fun key => ?_
  rw [isDuplicate_iff]
  by_cases filled : key = ""
  · simp [filled, List.count_eq_zero_of_not_mem]
  · rw [List.count_filter (by simpa using filled)]
    simp [filled]

/-- Nothing but how often each key stands in a row is looked at, and not even that for rows that are
not filled in. -/
theorem counts_congr {keys others : List String}
    (same : ∀ key, key ≠ "" → others.count key = keys.count key) : counts others = counts keys := by
  have nodup (keys : List String) : (counts keys).Nodup :=
    (counts_ascending keys).imp fun before => by
      rintro rfl
      exact String.lt_irrefl _ before
  apply List.Perm.eq_of_pairwise
    (fun a b _ _ before behind => absurd behind (String.lt_asymm before))
    (counts_ascending others) (counts_ascending keys)
  refine (List.perm_ext_iff_of_nodup (nodup others) (nodup keys)).mpr fun ⟨key, n⟩ => ?_
  rw [mem_counts_iff, mem_counts_iff, isDuplicate_iff, isDuplicate_iff]
  by_cases filled : key = ""
  · simp [filled]
  · rw [same key filled]

/-! ## Rows -/

/-- A row that is not filled in may be counted, but is left out. -/
theorem positions_eq (keys : List String) : positions keys =
    (keys.zipIdx.filter (isDuplicate keys ∘ Prod.fst)).map Prod.swap := by
  have counted (key : String) : ((keys.foldl tally []).lookup key).getD 0 = keys.count key :=
    (countOf_foldl_tally .nil keys key).trans (Nat.zero_add _)
  unfold positions
  simp only [counted]
  rfl

theorem mem_positions_iff {row : Nat} : (row, key) ∈ positions keys ↔
    keys[row]? = some key ∧ isDuplicate keys key = true := by
  rw [positions_eq, List.mem_map]
  constructor
  · rintro ⟨⟨found, place⟩, member, swapped⟩
    cases swapped
    obtain ⟨there, duplicate⟩ := List.mem_filter.mp member
    exact ⟨List.mem_zipIdx_iff_getElem?.mp there, duplicate⟩
  · rintro ⟨there, duplicate⟩
    refine ⟨(key, row), List.mem_filter.mpr ⟨?_, duplicate⟩, rfl⟩
    exact List.mem_zipIdx_iff_getElem?.mpr there

theorem positions_ascending (keys : List String) :
    (positions keys).Pairwise fun a b => a.1 < b.1 := by
  have ascending : keys.zipIdx.Pairwise fun a b => a.2 < b.2 := by
    rw [← List.pairwise_map (f := Prod.snd) (R := (· < ·)), List.zipIdx_map_snd]
    exact List.pairwise_lt_range'
  rw [positions_eq]
  exact List.pairwise_map.mpr (ascending.sublist List.filter_sublist)

theorem map_snd_positions (keys : List String) :
    (positions keys).map Prod.snd = keys.filter (isDuplicate keys) := by
  have rows : (positions keys).map Prod.snd =
      (keys.zipIdx.filter (isDuplicate keys ∘ Prod.fst)).map Prod.fst := by
    rw [positions_eq, List.map_map]
    rfl
  rw [rows, ← List.filter_map, List.zipIdx_map_fst]

theorem count_positions (keys : List String) (key : String) :
    ((positions keys).map Prod.snd).count key =
      if isDuplicate keys key then keys.count key else 0 := by
  rw [map_snd_positions]
  split
  · rename_i duplicate
    exact List.count_filter duplicate
  · rename_i single
    exact List.count_eq_zero_of_not_mem fun found => single (List.of_mem_filter found)

theorem positions_eq_nil_iff : positions keys = [] ↔ counts keys = [] := by
  rw [← List.map_eq_nil_iff (f := Prod.snd), map_snd_positions, List.filter_eq_nil_iff,
    counts_eq_nil_iff_isDuplicate]
  refine ⟨fun single key duplicate => ?_, fun single key _ => single key⟩
  exact single key (mem_of_isDuplicate duplicate) duplicate

theorem lookup_positions {row : Nat} :
    (positions keys).lookup row = some key ↔ (row, key) ∈ positions keys :=
  lookup_eq_some_iff_mem ((positions_ascending keys).imp Nat.ne_of_lt)

/-! ## Both views -/

/-- What holds of the counts of some keys, of their rows and of the verdict on them. Counts and rows
are look-ups in lists in ascending order, so that nothing has two counts, and no row two keys. -/
structure ViewsAgree (keys : List String) : Prop where
  counts_ascending : (counts keys).Pairwise fun a b => a.1 < b.1
  positions_ascending : (positions keys).Pairwise fun a b => a.1 < b.1
  counted (key : String) (n : Nat) :
    (counts keys).lookup key = some n ↔ key ≠ "" ∧ keys.count key = n ∧ 2 ≤ n
  listed (row : Nat) (key : String) : (positions keys).lookup row = some key ↔
    keys[row]? = some key ∧ ∃ n, (counts keys).lookup key = some n
  /-- A key has as many rows as are counted, and none if it is not counted. -/
  rows_counted (key : String) :
    ((positions keys).map Prod.snd).count key = ((counts keys).lookup key).getD 0
  same_keys (key : String) : key ∈ (counts keys).map Prod.fst ↔ key ∈ (positions keys).map Prod.snd
  any_iff : any keys = true ↔ ¬ (keys.filter (· ≠ "")).Nodup
  any_iff_positions : any keys = true ↔ positions keys ≠ []
  /-- The order of the rows does not matter. -/
  of_perm {others : List String} (reordered : others.Perm keys) : counts others = counts keys
  /-- Nor do rows that are not filled in, wherever they stand. -/
  of_filled {others : List String} (filled : others.filter (· ≠ "") = keys.filter (· ≠ "")) :
    counts others = counts keys

/-- **Duplicates are exact, and their two views are one.** -/
theorem views_agree (keys : List String) : ViewsAgree keys := by
  have any_iff : any keys = true ↔ counts keys ≠ [] := by simp [any]
  refine ⟨counts_ascending keys, positions_ascending keys, fun key n => ?_, fun row key => ?_,
    fun key => ?_, fun key => ?_, ?_, ?_, fun reordered => ?_, fun {others} filled => ?_⟩
  · rw [lookup_counts_eq_some_iff, isDuplicate_iff]
    constructor
    · rintro ⟨⟨filled, twice⟩, rfl⟩
      exact ⟨filled, rfl, twice⟩
    · rintro ⟨filled, rfl, twice⟩
      exact ⟨⟨filled, twice⟩, rfl⟩
  · simp only [lookup_positions, mem_positions_iff, lookup_counts_eq_some_iff, exists_and_left,
      exists_eq, and_true]
  · rw [count_positions, lookup_counts]
    split <;> rfl
  · rw [mem_keys_counts, map_snd_positions, List.mem_filter]
    exact ⟨fun duplicate => ⟨mem_of_isDuplicate duplicate, duplicate⟩, And.right⟩
  · rw [any_iff, ne_eq, counts_eq_nil_iff]
  · rw [any_iff, ne_eq, ne_eq, positions_eq_nil_iff]
  · exact counts_congr fun key _ => reordered.count_eq key
  · refine counts_congr fun key nonempty => ?_
    have kept (keys : List String) : (keys.filter (· ≠ "")).count key = keys.count key :=
      List.count_filter (by simpa using nonempty)
    rw [← kept others, filled, kept keys]

end Provision.Duplicates
