import Provision.Proofs.DoubleOrder
import Provision.Sliders

/-!
# Snapping limits into a range

A limit inside its range stays, and one outside goes to the lower end, even where the range is empty
and the lower end is outside itself.

- `Range.snapped_snap`: what a value becomes, by what snapping asks of an order.
- `Range.snapped_float`, `Range.snapped_word`: cores and memory are snapped by the same rules.
- `Headroom.projects`: a request is projected, each limit for itself.
- `Headroom.clamp_settles`: so a refresh that is repeated on the same observation changes nothing
  more.
-/

namespace Provision

namespace Range

variable {α : Type} [LE α] [DecidableLE α]

/-- What a value becomes when it is snapped into a range. -/
structure Snapped [LT α] (r : Range α) (value snapped : α) : Prop where
  kept (inside : r.contains value = true) : snapped = value
  kept_between (least : r.min ≤ value) (most : value ≤ r.max) : snapped = value
  lowered (outside : r.contains value = false) : snapped = r.min
  lowered_outside (outside : ¬ (r.min ≤ value ∧ value ≤ r.max)) : snapped = r.min
  inside (proper : r.min ≤ r.max) : r.contains snapped = true
  between (proper : r.min ≤ r.max) : r.min ≤ snapped ∧ snapped ≤ r.max
  empty (reversed : r.max < r.min) : snapped = r.min

theorem contains_iff {r : Range α} {value : α} :
    r.contains value = true ↔ r.min ≤ value ∧ value ≤ r.max := by simp [contains]

theorem contains_eq_false_iff {r : Range α} {value : α} :
    r.contains value = false ↔ ¬ (r.min ≤ value ∧ value ≤ r.max) := by
  rw [Bool.eq_false_iff, ne_eq, contains_iff]

theorem snap_of_not_contains {r : Range α} {value : α} (outside : r.contains value = false) :
    r.snap value = r.min := by simp [snap, outside]

theorem contains_snap {r : Range α} (proper : r.min ≤ r.max) (least : r.min ≤ r.min) (value : α) :
    r.contains (r.snap value) = true := by
  by_cases inside : r.contains value = true
  · rw [snap_of_contains inside, inside]
  · rw [snap_of_not_contains (Bool.eq_false_iff.mpr inside)]
    exact contains_iff.mpr ⟨least, proper⟩

/-- All that snapping asks of an order: the lower end is one of a range that is not empty, and no
value lies in one that is. -/
theorem snapped_snap [LT α] {r : Range α} (least : r.min ≤ r.max → r.min ≤ r.min)
    (empty : r.max < r.min → ∀ value, r.min ≤ value → ¬ value ≤ r.max) (value : α) :
    r.Snapped value (r.snap value) where
  kept := snap_of_contains
  kept_between below above := snap_of_contains (contains_iff.mpr ⟨below, above⟩)
  lowered := snap_of_not_contains
  lowered_outside outside := snap_of_not_contains (contains_eq_false_iff.mpr outside)
  inside proper := contains_snap proper (least proper) value
  between proper := contains_iff.mp (contains_snap proper (least proper) value)
  empty reversed := by
    apply snap_of_not_contains
    rw [contains_eq_false_iff]
    exact fun ⟨below, above⟩ => empty reversed value below above

theorem snapped_float (r : Range Float) (value : Float) : r.Snapped value (r.snap value) :=
  snapped_snap Number.le_refl_of_le (fun reversed _ => Number.not_le_of_lt_of_le reversed) value

theorem snapped_word (r : Range UInt64) (value : UInt64) : r.Snapped value (r.snap value) :=
  snapped_snap (fun _ => UInt64.le_refl _)
    (fun reversed _ below => UInt64.not_le.mpr (UInt64.lt_of_lt_of_le reversed below)) value

end Range

namespace Headroom

/-- What holds of a request that is snapped into a headroom. -/
structure Projects (h : Headroom) (r : Request) : Prop where
  type : (h.clamp r).type = r.type
  access : (h.clamp r).access = r.access
  replicas : (h.clamp r).replicas = r.replicas
  cores : h.cpu.Snapped r.cores (h.clamp r).cores
  memory : h.memory.Snapped r.memory (h.clamp r).memory
  /-- The cores depend on nothing of the memory. -/
  cores_alone {g : Headroom} {s : Request} (range : g.cpu = h.cpu) (limit : s.cores = r.cores) :
    (g.clamp s).cores = (h.clamp r).cores
  /-- Nor does the memory depend on anything of the cores. -/
  memory_alone {g : Headroom} {s : Request} (range : g.memory = h.memory)
    (limit : s.memory = r.memory) : (g.clamp s).memory = (h.clamp r).memory
  idempotent : h.clamp (h.clamp r) = h.clamp r

theorem projects (h : Headroom) (r : Request) : h.Projects r where
  type := rfl
  access := rfl
  replicas := rfl
  cores := h.cpu.snapped_float r.cores
  memory := h.memory.snapped_word r.memory
  cores_alone range limit := by simp only [clamp, range, limit]
  memory_alone range limit := by simp only [clamp, range, limit]
  idempotent := clamp_clamp h r

theorem clamp_of_contains {h : Headroom} {r : Request} (cores : h.cpu.contains r.cores = true)
    (memory : h.memory.contains r.memory = true) : h.clamp r = r := by
  rw [clamp, Range.snap_of_contains cores, Range.snap_of_contains memory]

end Headroom

namespace Sliders

/-- Another refresh on the same observation, of what the last one has left. -/
def again (o : Observation) :
    Except Fault Headroom × Sliders × Form → Except Fault Headroom × Sliders × Form :=
  fun (_, sliders, form) => sliders.refreshForm o form

theorem again_refreshForm {o : Observation} {headroom : Headroom} (h : o.headroom = .ok headroom)
    (sliders : Sliders) (form : Form) :
    again o (sliders.refreshForm o form) = sliders.refreshForm o form := by
  rw [refreshForm_ok h, again, refreshForm_ok h, Headroom.clamp_clamp]

theorem headroom_of_refreshForm {o : Observation} {headroom : Headroom} {sliders : Sliders}
    {form : Form} (done : (sliders.refreshForm o form).1 = .ok headroom) :
    o.headroom = .ok headroom := by
  cases h : o.headroom with
  | error fault =>
    rw [refreshForm_error h] at done
    cases done
  | ok other =>
    rw [refreshForm_ok h] at done
    exact done

/-- What holds of a refresh that has shown this headroom. -/
structure Settles (sliders : Sliders) (headroom : Headroom) (o : Observation) (form : Form) :
    Prop where
  snapped : (sliders.refreshForm o form).2.2 =
    { form with deployment := headroom.clamp form.deployment }
  /-- Repeated however often, it gives the same answer and leaves the same sliders and form. -/
  repeated (n : Nat) : (again o)^[n] (sliders.refreshForm o form) = sliders.refreshForm o form
  untouched (cores : headroom.cpu.contains form.deployment.cores = true)
    (memory : headroom.memory.contains form.deployment.memory = true) :
    (sliders.refreshForm o form).2.2 = form

end Sliders

/-- **Snapping is a projection.** Each limit goes into its range, or to the lower end of a range
that is empty, and stays there; so a refresh has settled sliders and form once it has succeeded. -/
theorem Headroom.clamp_settles (headroom : Headroom) :
    (∀ r : Request, headroom.Projects r) ∧
      ∀ (sliders : Sliders) (o : Observation) (form : Form),
        (sliders.refreshForm o form).1 = .ok headroom → sliders.Settles headroom o form := by
  refine ⟨headroom.projects, fun sliders o form done => ?_⟩
  have read := Sliders.headroom_of_refreshForm done
  have answer := Sliders.refreshForm_ok read sliders form
  refine ⟨by rw [answer], fun n => ?_, fun cores memory => ?_⟩
  · exact Function.iterate_fixed (Sliders.again_refreshForm read sliders form) n
  · rw [answer, Headroom.clamp_of_contains cores memory]

/-- A quota of which everything is used. -/
def usedUp : NamespaceQuota where
  cpuLimit := some 3
  cpuUsed := 3
  memoryLimit := some 7000000000
  memoryUsed := 7000000000
  cpuLimit_pos limit h := by
    cases h
    decide +kernel
  memoryLimit_pos limit h := by
    cases h
    decide

/-- One node, but nothing left of the quota. -/
def exhausted : Observation := ⟨.standard, [⟨"worker", 8, "16G"⟩], some usedUp, none⟩

/-- A form that asks for more than the floors. -/
def asking : Form := { Form.initial with deployment := ⟨.replicated, .shared, 2, 1.5, 512⟩ }

/-- The floors are outside the ranges that they begin, and limits stay on them all the same. -/
theorem Headroom.clamp_settles_exhausted :
    (Sliders.initial.refreshForm exhausted asking).1 = .ok ⟨⟨0.1, 0⟩, ⟨64, 0⟩, true⟩ ∧
      ((Sliders.again exhausted)^[3] (Sliders.initial.refreshForm exhausted asking)).2.2 =
        { asking with deployment := ⟨.replicated, .shared, 2, 0.1, 64⟩ } := by
  have done : (Sliders.initial.refreshForm exhausted asking).1 =
      .ok ⟨⟨0.1, 0⟩, ⟨64, 0⟩, true⟩ := by decide +kernel
  obtain ⟨projects, settles⟩ := Headroom.clamp_settles ⟨⟨0.1, 0⟩, ⟨64, 0⟩, true⟩
  have snapped := projects asking.deployment
  have cores := snapped.cores.empty (by decide +kernel)
  have memory := snapped.memory.empty (by decide)
  have settled := settles _ _ _ done
  refine ⟨done, ?_⟩
  rw [settled.repeated 3, settled.snapped]
  exact congrArg₂ (fun cores memory =>
    { asking with deployment := ⟨.replicated, .shared, 2, cores, memory⟩ }) cores memory

end Provision
