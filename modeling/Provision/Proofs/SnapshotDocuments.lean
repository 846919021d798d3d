import Provision.Proofs.SnapshotReading
import Provision.Proofs.SnapshotVariations

/-!
# Documents of snapshots

What becomes of a document that is read and written again, its Kubernetes objects apart.

- `documents_round_trip`: what is written reads back, and documents that say the same are written
  as one.
-/

namespace Provision

open Json (SameRecord Spacing Value)

namespace Snapshot

/-- The document that is written, of which the Kubernetes objects are no part. -/
def Codec.written (codec : Codec) (spacing : Spacing) (s : Snapshot) : String :=
  codec.text spacing 0 (codec.toJson s.portable)

/-- A document that was read has one form in which it is written, but for white space. -/
structure RoundTrip (codec : Codec) (document : String) (s : Snapshot) : Prop where
  /-- What is written reads back. -/
  back (spacing : Spacing) (blank : spacing.IsBlank) :
    codec.read? (codec.written spacing s) = some s.portable
  /-- And it is written as it was read. -/
  again (spacing : Spacing) (blank : spacing.IsBlank) :
    ∀ t, codec.read? (codec.written spacing s) = some t →
      codec.written spacing t = codec.written spacing s
  /-- Another document that says the same is read, and written as the same text. -/
  alike : ∀ other v w, codec.toCodec.read? document = some v → codec.toCodec.read? other = some w →
    SameRecord slots v w →
      ∃ t, codec.read? other = some t ∧
        ∀ spacing, codec.written spacing t = codec.written spacing s

/-- **Documents.** Every document that is read has one form in which it is written, under any codec
that reads back the numbers, the strings and the time that it writes. -/
theorem documents_round_trip {codec : Codec} {document : String} {s : Snapshot}
    (h : codec.read? document = some s) (grants : codec.ReadsBack s) :
    RoundTrip codec document s := by
  obtain ⟨v, hv, hs⟩ := Option.bind_eq_some_iff.mp h
  have finite : ∀ x ∈ s.doubles, x.isFinite = true := Codec.doubles_isFinite hs
  have back (spacing : Spacing) (blank : spacing.IsBlank) :
      codec.read? (codec.written spacing s) = some s.portable := by
    have keeps : codec.Keeps (codec.toJson s.portable) :=
      Codec.toJson_keeps grants.natural fun x hx => grants.real x hx (finite x hx)
    have decoded : codec.ofJson? (codec.toJson s) = some s.portable :=
      Codec.ofJson?_toJson finite grants.moment
    rw [Codec.written, Codec.read?, Json.Codec.read?_text grants.string blank keeps,
      Option.bind_some]
    exact decoded
  refine ⟨back, ?_, ?_⟩
  · intro spacing blank t ht
    rw [back spacing blank] at ht
    cases ht
    rfl
  · intro other u w hu hw same
    have alike : (codec.ofJson? u).map portable = (codec.ofJson? w).map portable :=
      codec.readAlike u w same
    rw [hv] at hu
    cases hu
    rw [hs, Option.map_some] at alike
    obtain ⟨t, ht, portable⟩ := Option.map_eq_some_iff.mp alike.symm
    refine ⟨t, by rw [Codec.read?, hw, Option.bind_some, ht], fun spacing => ?_⟩
    rw [Codec.written, portable, Codec.written]

/-! ## A document with other spellings, an unknown field and a null -/

def spelledNode : Value := .record
  [("name", .text "a"), ("CPU", .real 4.5), ("Memory", .text "8Gi"), ("zone", .natural 1)]

def plainNode : Value := .record [("name", .text "a"), ("cpu", .real 4.5), ("memory", .text "8Gi")]

def spelledForm : Value := .record [("deployment_type", .text "STATEFUL_SET")]

def plainForm : Value :=
  .record [("deployment_type", .text "STATEFULSET"), ("replicas", .natural 1)]

def captured : String × Value := ("captured_at", .text "2024-02-29T23:59:60.5Z")

def spelledValue : Value :=
  .record [captured, ("nodes", .array [spelledNode]), ("saved", .null), ("form", spelledForm)]

def plainValue : Value := .record [captured, ("nodes", .array [plainNode]), ("form", plainForm)]

def spelledSnapshot : Snapshot where
  capturedAt := some ⟨⟨2024, 2, 29⟩, 23, 59, 60, 500000000⟩
  nodes := [⟨"a", 4.5, "8Gi"⟩]
  kubernetesNodes := []
  quota := none
  resourceQuota := none
  form := { FormDocument.empty with type := .statefulSet }
  saved := none
  editing := none
  existing := []
  pods := []
  configuration := none

theorem spelledNode_same : SameRecord NodeListing.slots spelledNode plainNode := by
  refine ⟨_, _, rfl, rfl, ?_⟩
  simp only [NodeListing.slots, List.forall_mem_cons]
  refine ⟨?_, ?_, ?_, List.forall_mem_nil _⟩
  all_goals exact ⟨by decide, by decide, .cons (.inl rfl) .nil⟩

theorem spelledForm_same : SameRecord FormDocument.slots spelledForm plainForm := by
  have type : SameName DeploymentType.spellings (.text "STATEFUL_SET") (.text "STATEFULSET") :=
    ⟨.statefulSet, "STATEFUL_SET", by decide, "STATEFULSET", by decide, Or.inl rfl, Or.inl rfl⟩
  refine ⟨_, _, rfl, rfl, ?_⟩
  simp only [FormDocument.slots, List.forall_mem_cons]
  refine ⟨?_, ⟨by decide, by decide, .cons (.inr type) .nil⟩, ?_, ?_, ?_, ?_, ?_, ?_, ?_,
    List.forall_mem_nil _⟩
  all_goals exact ⟨by decide, by decide, .cons (.inl rfl) .nil⟩

theorem spelledValue_same : SameRecord slots spelledValue plainValue := by
  have nodes : Json.SameList (SameRecord NodeListing.slots) (.array [spelledNode])
      (.array [plainNode]) := ⟨_, _, rfl, rfl, .cons (.inr spelledNode_same) .nil⟩
  refine ⟨_, _, rfl, rfl, ?_⟩
  simp only [slots, List.forall_mem_cons]
  refine ⟨?_, ⟨by decide, by decide, .cons (.inr nodes) .nil⟩, ?_, ?_, ?_,
    ⟨by decide, by decide, .cons (.inr spelledForm_same) .nil⟩, ?_, ?_, ?_, ?_, ?_,
    List.forall_mem_nil _⟩
  -- Missing or null where the field is optional, and otherwise its value where it is missing.
  all_goals first
    | exact ⟨by decide, by decide, .nil⟩
    | exact ⟨by decide, by decide, .cons (.inl rfl) .nil⟩

theorem cores_keeps : Json.Codec.standard.Keeps (.real 4.5) := by
  refine .number (Json.keepsNumber_real (by decide +kernel) ?_)
  exact ⟨false, 5066549580791808, -50, by decide +kernel, Or.inr (by decide +kernel)⟩

theorem spelledValue_keeps : Json.Codec.standard.Keeps spelledValue := by
  have zone : Json.Codec.standard.Keeps (.natural 1) :=
    .number (Json.keepsNumber_natural (by decide))
  have node : Json.Codec.standard.Keeps spelledNode := by
    apply Json.Codec.Keeps.record
    simp only [List.forall_mem_cons]
    exact ⟨.text _, cores_keeps, .text _, zone, List.forall_mem_nil _⟩
  have form : Json.Codec.standard.Keeps spelledForm := by
    apply Json.Codec.Keeps.record
    simp only [List.forall_mem_cons]
    exact ⟨.text _, List.forall_mem_nil _⟩
  apply Json.Codec.Keeps.record
  simp only [List.forall_mem_cons]
  exact ⟨.text _, .array (by simpa using node), .null, form, List.forall_mem_nil _⟩

theorem plainValue_keeps : Json.Codec.standard.Keeps plainValue := by
  have replicas : Json.Codec.standard.Keeps (.natural 1) :=
    .number (Json.keepsNumber_natural (by decide))
  have node : Json.Codec.standard.Keeps plainNode := by
    apply Json.Codec.Keeps.record
    simp only [List.forall_mem_cons]
    exact ⟨.text _, cores_keeps, .text _, List.forall_mem_nil _⟩
  have form : Json.Codec.standard.Keeps plainForm := by
    apply Json.Codec.Keeps.record
    simp only [List.forall_mem_cons]
    exact ⟨.text _, replicas, List.forall_mem_nil _⟩
  apply Json.Codec.Keeps.record
  simp only [List.forall_mem_cons]
  exact ⟨.text _, .array (by simpa using node), form, List.forall_mem_nil _⟩

theorem spelledSnapshot_short : ∀ x ∈ spelledSnapshot.doubles, Json.HasShortText x := by
  have doubles : spelledSnapshot.doubles = [4.5, 0] := rfl
  rw [doubles, List.forall_mem_cons, List.forall_mem_singleton]
  constructor
  · exact ⟨false, 5066549580791808, -50, by decide +kernel, Or.inr (by decide +kernel)⟩
  · exact ⟨false, 0, -1074, by decide +kernel, Or.inl rfl⟩

/-- The two documents are written as one. -/
theorem documents_round_trip_spelled :
    read? spelledValue.pretty = some spelledSnapshot ∧
      RoundTrip .standard spelledValue.pretty spelledSnapshot ∧
        ∃ t, read? plainValue.compact = some t ∧
          ∀ spacing, Codec.standard.written spacing t =
            Codec.standard.written spacing spelledSnapshot := by
  have spelled : Json.read? spelledValue.pretty = some spelledValue :=
    Json.Codec.read?_text Json.keepsString Spacing.pretty_isBlank spelledValue_keeps 0
  have plain : Json.read? plainValue.compact = some plainValue :=
    Json.Codec.read?_text Json.keepsString Spacing.compact_isBlank plainValue_keeps 0
  have decoded : Codec.standard.ofJson? spelledValue = some spelledSnapshot := by decide +kernel
  have read : Codec.standard.read? spelledValue.pretty = some spelledSnapshot := by
    rw [Codec.read?]
    exact (Option.bind_eq_some_iff.mpr ⟨_, spelled, decoded⟩)
  have trip := documents_round_trip read (standard_readsBack read spelledSnapshot_short)
  exact ⟨read, trip, trip.alike plainValue.compact _ _ spelled plain spelledValue_same⟩

end Snapshot

end Provision
