import Provision.Report.Headroom
import Provision.Report.Validation

/-!
# The reports on headroom and on readiness agree

Each report builds the nodes, the quota, the saved form and the form of a snapshot, in an order of
its own, and one of them snaps the form into the range before it is asked whether it fits.

- `Built`: the four parts of a snapshot that both reports are made of.
- `HeadroomReport.ofSnapshot_ok_iff`, `ValidationReport.ofSnapshot_ok_iff`: either report is made
  exactly from built parts, whatever the order.
- `headroom_validation_agree`: so both are made or neither is, and they show the same headroom and
  the same verdict on it.
-/

namespace Provision

open Json (Value)

/-! ## Looking into a document -/

namespace Json.Value

def field? (name : String) : Value → Option Value
  | .object fields => fields.lookup (some name)
  | _ => none

/-- The value that a path of names leads to. -/
def at? : List String → Value → Option Value
  | [], value => some value
  | name :: path, value => (value.field? name).bind (at? path)

theorem at?_append (p q : List String) (value : Value) :
    value.at? (p ++ q) = (value.at? p).bind (at? q) := by
  induction p generalizing value with
  | nil => rfl
  | cons name rest ih =>
    rw [List.cons_append, at?, at?, Option.bind_assoc]
    exact congrArg _ (funext ih)

theorem field?_record (name : String) (fields : List (String × Value)) :
    (record fields).field? name = fields.lookup name := by
  change (fields.map fun field => (some field.1, field.2)).lookup (some name) = _
  induction fields with
  | nil => rfl
  | cons field rest ih =>
    rw [List.map_cons, List.lookup_cons, List.lookup_cons, ih]
    rfl

end Json.Value

/-! ## The parts of a snapshot -/

/-- The parts of a snapshot, built. -/
structure Built (s : Snapshot) (nodes : List NodeCapacity) (quota : Option NamespaceQuota)
    (saved : Option Form) (form : Form) : Prop where
  nodes : s.nodeCapacities = .ok nodes
  quota : s.namespaceQuota = .ok quota
  saved : s.savedForm = .ok saved
  form : s.applicationForm = .ok form

/-- What a saved form is credited with. -/
def credited (saved : Option Form) : Option SavedReservation := saved.map (·.deployment.reservation)

/-! ## Building one part -/

theorem Snapshot.nodeCapacities_ok_iff {s : Snapshot} {nodes : List NodeCapacity} :
    s.nodeCapacities = .ok nodes ↔
      ∃ entries, s.nodeListings = .ok entries ∧ NodeCapacity.ofListings entries = .ok nodes := by
  unfold nodeCapacities
  rw [Traversal.bind_eq_ok_iff]
  simp only [inPart_ok_iff]

theorem Snapshot.savedReservation_ok_iff {s : Snapshot} {held : Option SavedReservation} :
    s.savedReservation = .ok held ↔ ∃ saved, s.savedForm = .ok saved ∧ held = credited saved :=
  Traversal.map_eq_ok_iff

/-! ## Making a report -/

namespace HeadroomReport

theorem observation_ok_iff {policy : Policy} {s : Snapshot} {o : Observation} :
    observation policy s = .ok o ↔ ∃ entries quota saved, s.nodeListings = .ok entries ∧
      s.namespaceQuota = .ok quota ∧ s.savedForm = .ok saved ∧
      o = ⟨policy, entries, quota, credited saved⟩ := by
  unfold observation
  simp only [Traversal.bind_eq_ok_iff]
  constructor
  · rintro ⟨entries, hn, quota, hq, held, hs, ho⟩
    obtain ⟨saved, hsaved, rfl⟩ := Snapshot.savedReservation_ok_iff.mp hs
    cases ho
    exact ⟨entries, quota, saved, hn, hq, hsaved, rfl⟩
  · rintro ⟨entries, quota, saved, hn, hq, hs, rfl⟩
    have held := Snapshot.savedReservation_ok_iff.mpr ⟨saved, hs, rfl⟩
    exact ⟨entries, hn, quota, hq, credited saved, held, rfl⟩

/-- The report of built parts. -/
def ofParts (policy : Policy) (nodes : List NodeCapacity) (quota : Option NamespaceQuota)
    (saved : Option Form) (form : Form) : HeadroomReport :=
  let headroom := Headroom.compute policy nodes quota (credited saved)
  { headroom
    requested := form.deployment
    suggested := headroom.clamp form.deployment }

/-- The request that is reported is the one before it is snapped. -/
theorem ofSnapshot_ok_iff {policy : Policy} {s : Snapshot} {r : HeadroomReport} :
    ofSnapshot policy s = .ok r ↔
      ∃ nodes quota saved form, Built s nodes quota saved form ∧
        r = ofParts policy nodes quota saved form := by
  unfold ofSnapshot
  constructor
  · intro h
    obtain ⟨o, ho, h⟩ := Traversal.bind_eq_ok_iff.mp h
    obtain ⟨form, hf, h⟩ := Traversal.bind_eq_ok_iff.mp h
    obtain ⟨entries, quota, saved, hn, hq, hs, rfl⟩ := observation_ok_iff.mp ho
    cases observed : Observation.headroom ⟨policy, entries, quota, credited saved⟩ with
    | error fault =>
      rw [Sliders.refreshForm_error observed] at h
      cases h
    | ok headroom =>
      rw [Sliders.refreshForm_ok observed] at h
      obtain ⟨nodes, hl, rfl⟩ := Observation.headroom_ok_iff.mp observed
      have capacities := Snapshot.nodeCapacities_ok_iff.mpr ⟨entries, hn, hl⟩
      cases h
      exact ⟨nodes, quota, saved, form, ⟨capacities, hq, hs, hf⟩, rfl⟩
  · rintro ⟨nodes, quota, saved, form, built, rfl⟩
    obtain ⟨entries, hn, hl⟩ := Snapshot.nodeCapacities_ok_iff.mp built.nodes
    let o : Observation := ⟨policy, entries, quota, credited saved⟩
    have ho : observation policy s = .ok o :=
      observation_ok_iff.mpr ⟨entries, quota, saved, hn, built.quota, built.saved, rfl⟩
    have observed : o.headroom = .ok (Headroom.compute policy nodes quota (credited saved)) :=
      Observation.headroom_ok_iff.mpr ⟨nodes, hl, rfl⟩
    refine Traversal.bind_eq_ok_iff.mpr ⟨o, ho, ?_⟩
    refine Traversal.bind_eq_ok_iff.mpr ⟨form, built.form, ?_⟩
    rw [Sliders.refreshForm_ok observed]
    rfl

end HeadroomReport

namespace ValidationReport

theorem headroom_ok_iff {policy : Policy} {s : Snapshot} {h : Headroom} :
    headroom policy s = .ok h ↔ ∃ nodes quota saved, s.nodeCapacities = .ok nodes ∧
      s.namespaceQuota = .ok quota ∧ s.savedForm = .ok saved ∧
      h = Headroom.compute policy nodes quota (credited saved) := by
  unfold headroom
  simp only [Traversal.bind_eq_ok_iff]
  constructor
  · rintro ⟨nodes, hn, quota, hq, held, hs, hr⟩
    obtain ⟨saved, hsaved, rfl⟩ := Snapshot.savedReservation_ok_iff.mp hs
    cases hr
    exact ⟨nodes, quota, saved, hn, hq, hsaved, rfl⟩
  · rintro ⟨nodes, quota, saved, hn, hq, hs, rfl⟩
    have held := Snapshot.savedReservation_ok_iff.mpr ⟨saved, hs, rfl⟩
    exact ⟨nodes, hn, quota, hq, credited saved, held, rfl⟩

/-- The report of built parts. -/
def ofParts (policy : Policy) (s : Snapshot) (nodes : List NodeCapacity)
    (quota : Option NamespaceQuota) (saved : Option Form) (form : Form) : ValidationReport :=
  { form
    configuration := s.configuration.getD ⟨[]⟩
    readiness := Readiness.evaluate
      { form, saved, headroom := Headroom.compute policy nodes quota (credited saved)
        existing := s.existing, editing := s.editing } }

/-- The saved form that is compared is the one that is credited. -/
theorem ofSnapshot_ok_iff {policy : Policy} {s : Snapshot} {r : ValidationReport} :
    ofSnapshot policy s = .ok r ↔
      ∃ nodes quota saved form, Built s nodes quota saved form ∧
        r = ofParts policy s nodes quota saved form := by
  unfold ofSnapshot
  simp only [Traversal.bind_eq_ok_iff, headroom_ok_iff]
  constructor
  · rintro ⟨form, hf, saved, hs, _, ⟨nodes, quota, saved', hn, hq, hs', rfl⟩, hr⟩
    have same : saved' = saved := Except.ok.inj (hs'.symm.trans hs)
    subst same
    cases hr
    exact ⟨nodes, quota, saved', form, ⟨hn, hq, hs, hf⟩, rfl⟩
  · rintro ⟨nodes, quota, saved, form, built, rfl⟩
    exact ⟨form, built.form, saved, built.saved, _,
      ⟨nodes, quota, saved, built.nodes, built.quota, built.saved, rfl⟩, rfl⟩

end ValidationReport

/-! ## Agreement -/

/-- Both reports on a snapshot go by one headroom, one form and one verdict. -/
structure ReportsAgree (policy : Policy) (s : Snapshot) (h : HeadroomReport)
    (v : ValidationReport) : Prop where
  headroom : ValidationReport.headroom policy s = .ok h.headroom
  judged : ∃ saved, s.savedForm = .ok saved ∧
    v.readiness = Readiness.evaluate ⟨v.form, saved, h.headroom, s.existing, s.editing⟩
  exceeds : h.exceeds = v.readiness.overflow
  exhausted : h.headroom.isExhausted = v.readiness.exhausted
  requested : h.requested = v.form.deployment
  suggested : h.suggested = h.headroom.clamp h.requested
  /-- Their documents hold the verdict, each under its own name. -/
  shown_exceeds : h.toJson.at? ["exceeds_headroom"] = some (.bool v.readiness.overflow) ∧
    v.toJson.at? ["readiness", "reservation_overflow"] = some (.bool v.readiness.overflow)
  shown_exhausted : h.toJson.at? ["capacity_exhausted"] = some (.bool v.readiness.exhausted) ∧
    v.toJson.at? ["readiness", "capacity_exhausted"] = some (.bool v.readiness.exhausted)

/-- **One headroom, one verdict.** The report on headroom is made exactly when the report on
readiness is. The range it shows is the range that readiness is judged by, the request it shows is
the one that is judged, and only the suggestion is snapped. -/
theorem headroom_validation_agree (policy : Policy) (s : Snapshot) :
    (∃ f g, HeadroomReport.ofSnapshot policy s = .error f ∧
      ValidationReport.ofSnapshot policy s = .error g) ∨
    ∃ h v, HeadroomReport.ofSnapshot policy s = .ok h ∧
      ValidationReport.ofSnapshot policy s = .ok v ∧ ReportsAgree policy s h v := by
  cases hh : HeadroomReport.ofSnapshot policy s with
  | error f =>
    left
    cases hv : ValidationReport.ofSnapshot policy s with
    | error g => exact ⟨f, g, rfl, rfl⟩
    | ok v =>
      obtain ⟨nodes, quota, saved, form, built, _⟩ := ValidationReport.ofSnapshot_ok_iff.mp hv
      have made : HeadroomReport.ofSnapshot policy s =
          .ok (.ofParts policy nodes quota saved form) :=
        HeadroomReport.ofSnapshot_ok_iff.mpr ⟨nodes, quota, saved, form, built, rfl⟩
      rw [hh] at made
      cases made
  | ok h =>
    right
    obtain ⟨nodes, quota, saved, form, built, rfl⟩ := HeadroomReport.ofSnapshot_ok_iff.mp hh
    have made : ValidationReport.ofSnapshot policy s =
        .ok (.ofParts policy s nodes quota saved form) :=
      ValidationReport.ofSnapshot_ok_iff.mpr ⟨nodes, quota, saved, form, built, rfl⟩
    have judged : ValidationReport.headroom policy s =
        .ok (Headroom.compute policy nodes quota (credited saved)) :=
      ValidationReport.headroom_ok_iff.mpr
        ⟨nodes, quota, saved, built.nodes, built.quota, built.saved, rfl⟩
    exact ⟨_, _, rfl, made, judged, ⟨saved, built.saved, rfl⟩, rfl, rfl, rfl, rfl,
      ⟨rfl, rfl⟩, ⟨rfl, rfl⟩⟩

end Provision
