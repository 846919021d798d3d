import Provision.Form
import Provision.Headroom

/-!
# Resource sliders

The sliders keep the headroom of the last refresh that succeeded. A refresh on a malformed listing
changes nothing, so a range never widens to what was not checked.

- `Observation.headroom_ok_iff`: there is a headroom exactly if the listing reads.
- `refresh_ok`, `refreshForm_ok`: a refresh that succeeds shows its headroom, and all that changes
  in a form are the limits that are snapped into it.
- `refresh_error`, `refreshForm_error`: a refresh that fails leaves sliders and form as they were.
-/

namespace Provision

structure Sliders where
  headroom : Option Headroom
  deriving DecidableEq

/-- What a refresh is computed from. -/
structure Observation where
  policy : Policy
  nodes : List NodeListing
  quota : Option NamespaceQuota
  saved : Option SavedReservation

/-- The headroom of an observation, if its listing reads. -/
def Observation.headroom (o : Observation) : Except Fault Headroom :=
  (NodeCapacity.ofListings o.nodes).map fun nodes => Headroom.compute o.policy nodes o.quota o.saved

theorem Observation.headroom_ok_iff {o : Observation} {h : Headroom} :
    o.headroom = .ok h ↔ ∃ nodes, NodeCapacity.ofListings o.nodes = .ok nodes ∧
      h = Headroom.compute o.policy nodes o.quota o.saved := Traversal.map_eq_ok_iff

namespace Sliders

def initial : Sliders := ⟨none⟩

def refresh (sliders : Sliders) (o : Observation) : Except Fault Headroom × Sliders :=
  match o.headroom with
  | .ok headroom => (.ok headroom, ⟨some headroom⟩)
  | .error fault => (.error fault, sliders)

/-- A refresh that also snaps the limits of a form into the new range. -/
def refreshForm (sliders : Sliders) (o : Observation) (form : Form) :
    Except Fault Headroom × Sliders × Form :=
  match sliders.refresh o with
  | (.ok headroom, sliders) =>
    (.ok headroom, sliders, { form with deployment := headroom.clamp form.deployment })
  | (.error fault, sliders) => (.error fault, sliders, form)

theorem refresh_ok {o : Observation} {headroom : Headroom} (h : o.headroom = .ok headroom)
    (sliders : Sliders) : sliders.refresh o = (.ok headroom, ⟨some headroom⟩) := by
  simp [refresh, h]

theorem refreshForm_ok {o : Observation} {headroom : Headroom} (h : o.headroom = .ok headroom)
    (sliders : Sliders) (form : Form) :
    sliders.refreshForm o form = (.ok headroom, ⟨some headroom⟩,
      { form with deployment := headroom.clamp form.deployment }) := by
  simp [refreshForm, refresh_ok h]

theorem refresh_error {o : Observation} {fault : Fault} (h : o.headroom = .error fault)
    (sliders : Sliders) : sliders.refresh o = (.error fault, sliders) := by simp [refresh, h]

theorem refreshForm_error {o : Observation} {fault : Fault} (h : o.headroom = .error fault)
    (sliders : Sliders) (form : Form) :
    sliders.refreshForm o form = (.error fault, sliders, form) := by
  simp [refreshForm, refresh_error h]

end Sliders

end Provision
