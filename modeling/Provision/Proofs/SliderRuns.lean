import Mathlib
import Provision.Sliders

/-!
# Runs of refreshes

The sliders are refreshed again and again, alone or together with a form, on listings that read and
on listings that do not.

- `NodeListing.problem?_eq_some_iff`: what is wrong with an entry is what its reading fails with.
- `NodeCapacity.ofListings_error_iff`: a listing fails with the problem of its first malformed
  entry, however far behind it stands.
- `answer_of_ok`, `answer_of_error`: all that a call can do.
- `shown_after`: after any calls the sliders show what the last successful one returned.
- `refresh_atomic`: so each call, behind any others, happens as a whole or not at all.
-/

namespace Provision

/-! ## Malformed entries -/

namespace NodeListing

/-- The memory does not read, or the cores are no finite number from zero on. -/
def IsMalformed (entry : NodeListing) : Prop :=
  (∃ fault, parseMemory entry.memory = .error fault) ∨
    ¬ (entry.cores.isFinite = true ∧ 0 ≤ entry.cores)

/-- What is wrong with an entry; its memory is looked at before its cores. -/
def problem? (entry : NodeListing) : Option Fault :=
  match parseMemory entry.memory with
  | .error fault => some fault
  | .ok _ =>
    if entry.cores.isFinite = true ∧ 0 ≤ entry.cores then none
    else some (.input (.cores .node entry.cores))

theorem problem?_eq_none_iff {entry : NodeListing} :
    entry.problem? = none ↔ ¬ entry.IsMalformed := by
  unfold problem? IsMalformed
  cases parseMemory entry.memory <;> simp

theorem isMalformed_iff {entry : NodeListing} :
    entry.IsMalformed ↔ ∃ fault, entry.problem? = some fault := by
  rw [← Option.ne_none_iff_exists', ne_eq, problem?_eq_none_iff, not_not]

theorem problem?_eq_some_iff {entry : NodeListing} {fault : Fault} :
    entry.problem? = some fault ↔ NodeCapacity.ofListing entry = .error fault := by
  unfold problem? NodeCapacity.ofListing NodeCapacity.parse NodeCapacity.of
  cases parseMemory entry.memory with
  | error other => simp [bind, Except.bind]
  | ok bytes =>
    by_cases cores : entry.cores.isFinite = true ∧ 0 ≤ entry.cores <;>
      simp [bind, Except.bind, cores, Quantity.isCoreCount]

/-- An entry without a problem is a node. -/
theorem problem?_eq_none_iff_ofListing {entry : NodeListing} :
    entry.problem? = none ↔ ∃ node, NodeCapacity.ofListing entry = .ok node := by
  cases read : NodeCapacity.ofListing entry with
  | error fault => simp [problem?_eq_some_iff.mpr read]
  | ok node =>
    simp only [Except.ok.injEq, exists_eq', iff_true]
    cases problem : entry.problem? with
    | none => rfl
    | some fault => simp [problem?_eq_some_iff.mp problem] at read

end NodeListing

/-! ## Listings -/

namespace NodeCapacity

theorem map_ofListing_iff {entries : List NodeListing} :
    (∃ nodes : List NodeCapacity, entries.map ofListing = nodes.map .ok) ↔
      ∀ entry ∈ entries, entry.problem? = none := by
  rw [Traversal.map_ok_iff]
  simp only [NodeListing.problem?_eq_none_iff_ofListing]

theorem ofListings_error_iff {entries : List NodeListing} {fault : Fault} :
    ofListings entries = .error fault ↔ entries.findSome? NodeListing.problem? = some fault := by
  unfold ofListings
  rw [Traversal.mapM_eq_error_iff, List.findSome?_eq_some_iff]
  simp only [map_ofListing_iff, ← NodeListing.problem?_eq_some_iff]
  constructor
  · rintro ⟨good, bad, rest, rfl, before, problem⟩
    exact ⟨good, bad, rest, rfl, problem, before⟩
  · rintro ⟨good, bad, rest, rfl, problem, before⟩
    exact ⟨good, bad, rest, rfl, before, problem⟩

end NodeCapacity

theorem Observation.headroom_error_iff {o : Observation} {fault : Fault} :
    o.headroom = .error fault ↔ o.nodes.findSome? NodeListing.problem? = some fault := by
  rw [← NodeCapacity.ofListings_error_iff, headroom]
  cases NodeCapacity.ofListings o.nodes <;> simp [Except.map]

namespace Sliders

/-! ## One call -/

/-- A refresh, alone or with a form whose limits are snapped. -/
inductive Call where
  | refresh (o : Observation)
  | refreshForm (o : Observation) (form : Form)

namespace Call

def observation : Call → Observation
  | refresh o => o
  | refreshForm o _ => o

/-- The form that is given to a call. -/
def form? : Call → Option Form
  | refresh _ => none
  | refreshForm _ form => some form

end Call

/-- What a call returns, and what it leaves of the sliders and of its form. -/
structure Answer where
  result : Except Fault Headroom
  sliders : Sliders
  form? : Option Form

def answer (sliders : Sliders) : Call → Answer
  | .refresh o => ⟨(sliders.refresh o).1, (sliders.refresh o).2, none⟩
  | .refreshForm o form =>
    let (result, sliders, form) := sliders.refreshForm o form
    ⟨result, sliders, some form⟩

theorem answer_of_ok {call : Call} {headroom : Headroom}
    (h : call.observation.headroom = .ok headroom) (sliders : Sliders) :
    sliders.answer call = ⟨.ok headroom, ⟨some headroom⟩,
      call.form?.map fun form => { form with deployment := headroom.clamp form.deployment }⟩ := by
  cases call with
  | refresh o =>
    have read : o.headroom = .ok headroom := h
    rw [answer, refresh_ok read]
    rfl
  | refreshForm o form =>
    have read : o.headroom = .ok headroom := h
    rw [answer, refreshForm_ok read]
    rfl

theorem answer_of_error {call : Call} {fault : Fault}
    (h : call.observation.headroom = .error fault) (sliders : Sliders) :
    sliders.answer call = ⟨.error fault, sliders, call.form?⟩ := by
  cases call with
  | refresh o =>
    have read : o.headroom = .error fault := h
    rw [answer, refresh_error read]
    rfl
  | refreshForm o form =>
    have read : o.headroom = .error fault := h
    rw [answer, refreshForm_error read]
    rfl

/-- What a call returns does not depend on the sliders. -/
theorem answer_result (sliders : Sliders) (call : Call) :
    (sliders.answer call).result = call.observation.headroom := by
  cases h : call.observation.headroom with
  | error fault => rw [answer_of_error h]
  | ok headroom => rw [answer_of_ok h]

/-! ## Many calls -/

/-- The sliders after calls on new ones. -/
def after (calls : List Call) : Sliders :=
  calls.foldl (fun sliders call => (sliders.answer call).sliders) .initial

theorem after_concat (calls : List Call) (call : Call) :
    after (calls ++ [call]) = ((after calls).answer call).sliders := by
  simp [after, List.foldl_append]

/-- The call fails, whatever the sliders show. -/
def Call.Fails (call : Call) : Prop :=
  ∀ sliders : Sliders, ∃ fault, (sliders.answer call).result = .error fault

/-- Nothing is shown while every call fails. Once one has succeeded, what the last one returned is
shown: the headroom of its policy, quota and saved reservation on the nodes that it read. -/
inductive Shown : List Call → Option Headroom → Prop where
  | nothing {calls : List Call} (failed : ∀ call ∈ calls, call.Fails) : Shown calls none
  | last {earlier : List Call} {call : Call} {later : List Call} {nodes : List NodeCapacity}
      {headroom : Headroom}
      (returned : ((after earlier).answer call).result = .ok headroom)
      (read : NodeCapacity.ofListings call.observation.nodes = .ok nodes)
      (computed : headroom = Headroom.compute call.observation.policy nodes
        call.observation.quota call.observation.saved)
      (failed : ∀ call ∈ later, call.Fails) :
      Shown (earlier ++ call :: later) (some headroom)

theorem Shown.concat_failed {calls : List Call} {shown : Option Headroom} {call : Call}
    (h : Shown calls shown) (fails : call.Fails) : Shown (calls ++ [call]) shown := by
  have both {failed : List Call} (before : ∀ c ∈ failed, c.Fails) :
      ∀ c ∈ failed ++ [call], c.Fails := by
    intro c hc
    rcases List.mem_append.mp hc with hc | hc
    · exact before c hc
    · rw [List.mem_singleton.mp hc]
      exact fails
  cases h with
  | nothing failed => exact .nothing (both failed)
  | last returned read computed failed =>
    rw [List.append_assoc, List.cons_append]
    exact .last returned read computed (both failed)

/-- The run, call by call: a call that fails keeps what is shown, and one that succeeds is the last
one to have done so. -/
theorem shown_after (calls : List Call) : Shown calls (after calls).headroom := by
  induction calls using List.reverseRecOn with
  | nil => exact .nothing fun _ h => nomatch h
  | append_singleton calls call ih =>
    rw [after_concat]
    cases h : call.observation.headroom with
    | error fault =>
      rw [answer_of_error h]
      refine ih.concat_failed fun sliders => ⟨fault, ?_⟩
      rw [answer_result, h]
    | ok headroom =>
      obtain ⟨nodes, read, computed⟩ := Observation.headroom_ok_iff.mp h
      rw [answer_of_ok h]
      refine .last ?_ read computed fun _ later => nomatch later
      rw [answer_result, h]

/-! ## A call behind others -/

/-- What holds of a call behind earlier ones. -/
structure Atomic (earlier : List Call) (call : Call) : Prop where
  /-- What is shown when the call is made. -/
  shown : Shown earlier (after earlier).headroom
  fails_iff : (∃ fault, ((after earlier).answer call).result = .error fault) ↔
    ∃ entry ∈ call.observation.nodes, entry.IsMalformed
  /-- Of several malformed entries the first one counts. -/
  fault_iff (fault : Fault) : ((after earlier).answer call).result = .error fault ↔
    ∃ good bad rest, call.observation.nodes = good ++ bad :: rest ∧
      bad.problem? = some fault ∧ ∀ entry ∈ good, ¬ entry.IsMalformed
  /-- A call that fails leaves the sliders and its form as they were. -/
  keeps {fault : Fault} (failed : ((after earlier).answer call).result = .error fault) :
    ((after earlier).answer call).sliders = after earlier ∧
      ((after earlier).answer call).form? = call.form?
  /-- A call that succeeds shows what it returns, and changes the limits of its form at most. -/
  changes {headroom : Headroom} (done : ((after earlier).answer call).result = .ok headroom) :
    ((after earlier).answer call).sliders.headroom = some headroom ∧
      ∃ cores memory, ((after earlier).answer call).form? = call.form?.map fun form =>
        { form with deployment := { form.deployment with cores, memory } }

/-- **A refresh happens as a whole or not at all**, behind any calls that failed or succeeded. -/
theorem refresh_atomic (earlier : List Call) (call : Call) : Atomic earlier call := by
  have result := answer_result (after earlier) call
  refine ⟨shown_after earlier, ?_, ?_, ?_, ?_⟩
  · simp only [result, Observation.headroom_error_iff, ← Option.isSome_iff_exists,
      List.findSome?_isSome_iff, NodeListing.isMalformed_iff]
  · intro fault
    rw [result, Observation.headroom_error_iff, List.findSome?_eq_some_iff]
    simp only [NodeListing.problem?_eq_none_iff]
  · intro fault failed
    rw [result] at failed
    rw [answer_of_error failed]
    exact ⟨rfl, rfl⟩
  · intro headroom done
    rw [result] at done
    rw [answer_of_ok done]
    refine ⟨rfl, ?_⟩
    cases call.form? with
    | none => exact ⟨0, 0, rfl⟩
    | some form =>
      exact ⟨headroom.cpu.snap form.deployment.cores,
        headroom.memory.snap form.deployment.memory, rfl⟩

end Sliders

end Provision
