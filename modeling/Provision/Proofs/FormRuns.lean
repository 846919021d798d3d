import Mathlib
import Provision.Editor
import Provision.Settings

/-!
# Whether a request stays valid

A request is checked when it is built and when its replicas or limits are set. Snapping it into a
range is not checked: it writes the lower end of the range, which under a quota is the floor of the
policy, and nothing checks a floor.

- `run_all`: what each edit and each snap keeps, every run keeps, in the form and in its copies.
- `clamp_valid`: a floor that is a core count snaps valid requests to valid ones.
- `stays_valid_iff_floor`: requests stay valid exactly under such floors; replicas are never lost.
- `negative_floor_breaks_request`: the settings take a floor below zero, and a run then ends with
  fewer cores than none.
-/

namespace Provision

open Quantity (isCoreCount)

/-! ## Editors -/

/-- The observation of a refresh is one under this policy. -/
def Edit.Under (policy : Policy) (edit : Edit) : Prop :=
  ∀ o, edit = .refreshFormOn o → o.policy = policy

/-- The form, the saved one and all copies have requests of this kind. -/
structure Editor.All (P : Request → Prop) (e : Editor) : Prop where
  form : P e.form.deployment
  saved {form : Form} (saved : e.saved = some form) : P form.deployment
  copies {form : Form} (kept : form ∈ e.copies) : P form.deployment

theorem Editor.all_initial {P : Request → Prop} {form : Form} (h : P form.deployment) :
    (Editor.initial form).All P := ⟨h, nofun, nofun⟩

/-! ## What every run keeps -/

/-- What is kept when a part of a request is set. -/
structure KeptByEdits (P : Request → Prop) : Prop where
  setType {r : Request} (h : P r) (type : DeploymentType) : P { r with type }
  setAccess {r : Request} (h : P r) (access : DataAccess) : P { r with access }
  withReplicas {r s : Request} {replicas : UInt32} (h : P r)
    (done : r.withReplicas replicas = .ok s) : P s
  withLimits {r s : Request} {cores : Float} {memory : UInt64} (h : P r)
    (done : r.withLimits cores memory = .ok s) : P s

/-- What is kept when a request is snapped into the headroom of an observation. -/
def KeptBySnaps (P : Request → Prop) (o : Observation) : Prop :=
  ∀ {headroom : Headroom} {r : Request}, o.headroom = .ok headroom → P r →
    P (headroom.clamp r)

namespace Editor

variable {P : Request → Prop} {policy : Policy} {e f : Editor}

theorem All.withForm (h : e.All P) {form : Form} (kept : P form.deployment) :
    { e with form }.All P := ⟨kept, h.saved, h.copies⟩

theorem refreshOn_all {o : Observation} (snaps : KeptBySnaps P o) (h : e.All P)
    (done : e.refreshOn o = .ok f) : f.All P := by
  cases observed : o.headroom with
  | error fault =>
    rw [refreshOn, Sliders.refreshForm_error observed] at done
    cases done
  | ok headroom =>
    rw [refreshOn, Sliders.refreshForm_ok observed] at done
    cases done
    exact ⟨snaps observed h.form, h.saved, h.copies⟩

theorem apply_all {edit : Edit} (edits : KeptByEdits P)
    (snaps : ∀ o : Observation, o.policy = policy ∨ edit = .refreshFormOn o → KeptBySnaps P o)
    (h : e.All P) (done : e.apply policy edit = .ok f) : f.All P := by
  have refreshed (nodes : List NodeListing) : KeptBySnaps P (e.observe policy nodes) :=
    snaps _ (Or.inl rfl)
  cases edit with
  | rename | setEnvironment | setConfigurations | removeFolder =>
    cases done
    exact h.withForm h.form
  | setType type =>
    cases done
    exact h.withForm (edits.setType h.form type)
  | setAccess access =>
    cases done
    exact h.withForm (edits.setAccess h.form access)
  | setReplicas replicas =>
    obtain ⟨r, made, rfl⟩ := Traversal.map_eq_ok_iff.mp done
    exact h.withForm (edits.withReplicas h.form made)
  | setLimits cores memory =>
    obtain ⟨r, made, rfl⟩ := Traversal.map_eq_ok_iff.mp done
    exact h.withForm (edits.withLimits h.form made)
  | addFolder folder =>
    cases done
    exact h.withForm (edits.setType h.form .replicated)
  | save =>
    cases done
    refine ⟨h.form, ?_, h.copies⟩
    rintro _ ⟨⟩
    exact h.form
  | forget =>
    cases done
    exact ⟨h.form, nofun, h.copies⟩
  | revert =>
    cases done
    refine h.withForm ?_
    cases kept : e.saved with
    | none => exact h.form
    | some form => exact h.saved kept
  | keep =>
    cases done
    refine ⟨h.form, h.saved, fun {form} kept => ?_⟩
    rcases List.mem_append.mp kept with kept | kept
    · exact h.copies kept
    · rw [List.mem_singleton.mp kept]
      exact h.form
  | restore copy =>
    cases done
    refine h.withForm ?_
    cases found : e.copies[copy]? with
    | none => exact h.form
    | some form => exact h.copies (List.mem_of_getElem? found)
  | setQuota | resetSliders =>
    cases done
    exact ⟨h.form, h.saved, h.copies⟩
  | refresh nodes =>
    cases observed : (e.observe policy nodes).headroom with
    | error fault =>
      rw [apply, Sliders.refresh_error observed] at done
      cases done
    | ok headroom =>
      rw [apply, Sliders.refresh_ok observed] at done
      cases done
      exact ⟨h.form, h.saved, h.copies⟩
  | refreshForm nodes => exact refreshOn_all (refreshed nodes) h done
  | refreshFormOn o => exact refreshOn_all (snaps o (Or.inr rfl)) h done

theorem run_all {es : List Edit} (edits : KeptByEdits P)
    (snaps : ∀ o : Observation, o.policy = policy ∨ .refreshFormOn o ∈ es → KeptBySnaps P o)
    (h : e.All P) : (e.run policy es).All P := by
  induction es generalizing e with
  | nil => exact h
  | cons edit rest ih =>
    refine ih (fun o made => snaps o (made.imp_right (List.mem_cons_of_mem _))) ?_
    unfold step
    cases done : e.apply policy edit with
    | error fault => exact h
    | ok f =>
      refine apply_all edits (fun o made => snaps o (made.imp_right fun same => ?_)) h done
      rw [same]
      exact List.mem_cons_self ..

end Editor

/-! ## Replicas -/

/-- At least one replica. -/
def Request.HasReplica (r : Request) : Prop := r.replicas ≠ 0

theorem hasReplica_keptByEdits : KeptByEdits Request.HasReplica where
  setType h _ := h
  setAccess h _ := h
  withReplicas _ done := by
    unfold Request.withReplicas at done
    split at done
    · cases done
    · rename_i some
      cases done
      exact some
  withLimits h done := by
    obtain ⟨_, _, done⟩ := Traversal.bind_eq_ok_iff.mp done
    cases done
    exact h

theorem hasReplica_keptBySnaps (o : Observation) : KeptBySnaps Request.HasReplica o :=
  fun _ h => h

/-! ## Cores -/

theorem valid_keptByEdits : KeptByEdits Request.Valid where
  setType h _ := h
  setAccess h _ := h
  withReplicas h done := Request.withReplicas_valid h done
  withLimits h done := Request.withLimits_valid h done

/-- The lower end is zero, or under a limit on cores the floor. -/
theorem Headroom.compute_cpu_min (policy : Policy) (nodes : List NodeCapacity)
    (quota : Option NamespaceQuota) (saved : Option SavedReservation) :
    (compute policy nodes quota saved).cpu.min = 0 ∨
      (compute policy nodes quota saved).cpu.min = policy.cpuFloor := by
  unfold compute cpuRange
  dsimp only
  split
  · exact Or.inl rfl
  · exact Or.inr rfl

theorem isCoreCount_zero : isCoreCount 0 = true := by decide +kernel

theorem Headroom.clamp_valid {policy : Policy} (floor : isCoreCount policy.cpuFloor = true)
    (nodes : List NodeCapacity) (quota : Option NamespaceQuota) (saved : Option SavedReservation)
    {r : Request} (h : r.Valid) : ((compute policy nodes quota saved).clamp r).Valid := by
  refine ⟨h.1, ?_⟩
  change isCoreCount ((compute policy nodes quota saved).cpu.snap r.cores) = true
  unfold Range.snap
  split
  · exact h.2
  · rcases compute_cpu_min policy nodes quota saved with low | low
    · rw [low]
      exact isCoreCount_zero
    · rw [low]
      exact floor

theorem valid_keptBySnaps {o : Observation} (floor : isCoreCount o.policy.cpuFloor = true) :
    KeptBySnaps Request.Valid o := by
  intro headroom r observed h
  obtain ⟨nodes, -, rfl⟩ := Observation.headroom_ok_iff.mp observed
  exact Headroom.clamp_valid floor nodes o.quota o.saved h

/-! ## Soundness of runs -/

/-- The request of the form passes the checks of a request, and what is credited of it those of a
saved reservation. -/
def Form.IsSound (form : Form) : Prop :=
  let r := form.deployment
  Request.of r.type r.access r.replicas r.cores r.memory = .ok r ∧
    SavedReservation.of r.cores r.memory r.replicas = .ok r.reservation

theorem Form.isSound_iff {form : Form} : form.IsSound ↔ form.deployment.Valid := by
  constructor
  · rintro ⟨request, -⟩
    exact (Request.of_ok_iff.mp request).2
  · intro h
    refine ⟨Request.of_ok_iff.mpr ⟨rfl, h⟩, ?_⟩
    have checked : checkCores .savedLimit form.deployment.cores = .ok () := if_pos h.2
    rw [SavedReservation.of, checked]
    exact if_neg h.1

/-- A limit of one core, none of it used. -/
def oneCore : NamespaceQuota where
  cpuLimit := some 1
  cpuUsed := 0
  memoryLimit := none
  memoryUsed := 0
  cpuLimit_pos := by
    rintro _ ⟨⟩
    decide +kernel
  memoryLimit_pos := nofun

/-- Two cores do not fit into one, so that a new form gets the floor. -/
def towardsFloor : List Edit := [.setQuota (some oneCore), .setLimits 2 0, .refreshForm []]

theorem towardsFloor_under {policy : Policy} : ∀ edit ∈ towardsFloor, edit.Under policy := by
  rintro edit made o rfl
  simp [towardsFloor] at made

theorem cpu_oneCore (policy : Policy) :
    (Headroom.compute policy [] (some oneCore) none).cpu = ⟨policy.cpuFloor, 1⟩ := by
  have largest : Quantity.roundCpu (if (0 : Float) < 1 - 0 then 1 - 0 else 0) = 1 := by
    decide +kernel
  exact congrArg (Range.mk policy.cpuFloor) largest

theorem run_towardsFloor (policy : Policy) :
    ((Editor.initial .initial).run policy towardsFloor).form.deployment.cores = policy.cpuFloor := by
  have two : checkCores .limit 2 = .ok () := if_pos (by decide +kernel)
  have set : Form.initial.deployment.withLimits 2 0 = .ok ⟨.replicated, .shared, 1, 2, 0⟩ := by
    rw [Request.withLimits, two]
    rfl
  have observed : Observation.headroom ⟨policy, [], some oneCore, none⟩ =
      .ok (Headroom.compute policy [] (some oneCore) none) :=
    Observation.headroom_ok_iff.mpr ⟨[], rfl, rfl⟩
  have outside : (Range.mk policy.cpuFloor 1).contains 2 = false := by
    have above : ¬ (2 : Float) ≤ 1 := by decide +kernel
    simp [Range.contains, above]
  let limited : Editor :=
    { Editor.initial .initial with quota := some oneCore }.withDeployment
      ⟨.replicated, .shared, 1, 2, 0⟩
  have limits : ({ Editor.initial .initial with quota := some oneCore }).apply policy
      (.setLimits 2 0) = .ok limited := congrArg (Except.map _) set
  have refreshed : limited.apply policy (.refreshForm []) = .ok { limited with
      sliders := ⟨some (Headroom.compute policy [] (some oneCore) none)⟩
      form := { limited.form with deployment :=
        (Headroom.compute policy [] (some oneCore) none).clamp limited.form.deployment } } := by
    have same : limited.observe policy [] = ⟨policy, [], some oneCore, none⟩ := rfl
    rw [Editor.apply, Editor.refreshOn, same, Sliders.refreshForm_ok observed]
  rw [towardsFloor, Editor.run, List.foldl_cons, List.foldl_cons, List.foldl_cons, List.foldl_nil]
  simp only [Editor.step, Editor.apply] at limits refreshed ⊢
  rw [limits]
  dsimp only
  rw [refreshed]
  change (Headroom.compute policy [] (some oneCore) none).cpu.snap 2 = policy.cpuFloor
  rw [cpu_oneCore, Range.snap, outside]
  rfl

/-- **Requests stay valid exactly under a floor that is a core count.** No edit and no refresh loses
the last replica. The cores stay a core count, whatever is done under the policy, if and only if its
floor is one. -/
theorem stays_valid_iff_floor (policy : Policy) :
    (∀ (form : Form) (edits : List Edit), form.deployment.replicas ≠ 0 →
      ((Editor.initial form).run policy edits).form.deployment.replicas ≠ 0) ∧
    ((∀ (form : Form) (edits : List Edit), form.deployment.Valid →
        (∀ edit ∈ edits, edit.Under policy) →
        ((Editor.initial form).run policy edits).form.IsSound) ↔
      isCoreCount policy.cpuFloor = true) := by
  constructor
  · intro form edits some
    have start : (Editor.initial form).All Request.HasReplica := Editor.all_initial some
    exact (Editor.run_all hasReplica_keptByEdits (fun o _ => hasReplica_keptBySnaps o) start).form
  · constructor
    · intro stays
      have valid : Form.initial.deployment.Valid := ⟨by decide, isCoreCount_zero⟩
      have sound := stays .initial towardsFloor valid towardsFloor_under
      rw [← run_towardsFloor policy]
      exact (Form.isSound_iff.mp sound).2
    · intro floor form edits valid under
      have start : (Editor.initial form).All Request.Valid := Editor.all_initial valid
      have snaps (o : Observation) (made : o.policy = policy ∨ .refreshFormOn o ∈ edits) :
          KeptBySnaps Request.Valid o := by
        apply valid_keptBySnaps
        rw [made.elim id fun made => under _ made o rfl]
        exact floor
      exact Form.isSound_iff.mpr (Editor.run_all valid_keptByEdits snaps start).form

/-- **A floor below zero breaks requests.** The settings take it as it is given. Under it a valid
request ends as one that would not be built. -/
theorem negative_floor_breaks_request :
    ∃ settings, Settings.load none [("KRES_CPU_FLOOR", "-1")] = .ok settings ∧
      Form.initial.deployment.Valid ∧
      let broken := ((Editor.initial .initial).run settings.policy towardsFloor).form.deployment
      broken.cores = -1 ∧ ¬ broken.Valid := by
  have read : Settings.load none [("KRES_CPU_FLOOR", "-1")] = .ok ⟨none, ⟨-1, 64⟩⟩ := by
    decide +kernel
  have cores := run_towardsFloor ⟨-1, 64⟩
  refine ⟨⟨none, ⟨-1, 64⟩⟩, read, ⟨by decide, isCoreCount_zero⟩, cores, ?_⟩
  intro valid
  have count := valid.2
  rw [cores] at count
  exact absurd count (by decide +kernel)

end Provision
