import Provision.Proofs.DoubleText
import Provision.Proofs.SnapshotEncoding
import Provision.Proofs.TimestampText

/-!
# What is read from documents

- `Snapshot.Codec.doubles_isFinite`: the doubles of a snapshot that is read are finite.
- `Snapshot.captured_proper`: its time has a text in the standard codec.
- `Snapshot.standard_readsBack`: that codec reads back all that it has read, but for doubles of many
  digits.
-/

namespace Provision

namespace Json

/-! ## Parts of a value -/

theorem mem_of_mapM {α β : Type} {f : α → Option β} {xs : List α} {ys : List β}
    (h : xs.mapM f = some ys) : ∀ y ∈ ys, ∃ x ∈ xs, f x = some y := by
  induction xs generalizing ys with
  | nil =>
    cases h
    nofun
  | cons x xs ih =>
    rw [List.mapM_cons] at h
    obtain ⟨first, read, h⟩ := Option.bind_eq_some_iff.mp h
    obtain ⟨others, more, given⟩ := Option.bind_eq_some_iff.mp h
    cases given
    rw [List.forall_mem_cons]
    refine ⟨⟨x, List.mem_cons_self .., read⟩, fun y hy => ?_⟩
    obtain ⟨z, member, back⟩ := ih more y hy
    exact ⟨z, List.mem_cons_of_mem _ member, back⟩

theorem Value.mem_of_list? {α : Type} {v : Value} {read : Value → Option α} {items : List α}
    (h : v.list? read = some items) : ∀ item ∈ items, ∃ w : Value, read w = some item := by
  obtain ⟨values, -, h⟩ := Option.bind_eq_some_iff.mp h
  intro item member
  obtain ⟨w, -, back⟩ := mem_of_mapM h item member
  exact ⟨w, back⟩

namespace Record

variable {α : Type} {r : Record} {name : String} {read : Value → Option α}

theorem required_given {a : α} (h : r.required name read = some a) :
    ∃ w, r.get? name = some w ∧ read w = some a := Option.bind_eq_some_iff.mp h

theorem defaulted_given {a absent : α} (h : r.defaulted name read absent = some a) :
    a = absent ∨ ∃ w, r.get? name = some w ∧ read w = some a := by
  unfold defaulted at h
  split at h
  · rename_i w stated
    exact Or.inr ⟨w, stated, h⟩
  · cases h
    exact Or.inl rfl

theorem optional_given {a : Option α} (h : r.optional name read = some a) :
    ∀ x ∈ a, ∃ w, r.get? name = some w ∧ read w = some x := by
  unfold optional at h
  split at h
  · cases h
    nofun
  · rename_i w _ stated
    obtain ⟨x, back, given⟩ := Option.map_eq_some_iff.mp h
    cases given
    rintro _ ⟨⟩
    exact ⟨w, stated, back⟩
  · cases h
    nofun

end Record

end Json

open Json (Value Record)

/-! ## The doubles of a snapshot -/

theorem isFinite_zero : (0 : Float).isFinite = true := by decide +kernel

theorem NodeListing.isFinite_of_ofJson? {v : Value} {n : NodeListing} (h : ofJson? v = some n) :
    n.cores.isFinite = true := by
  simp only [ofJson?, Option.bind_eq_bind, Option.bind_eq_some_iff] at h
  obtain ⟨r, -, _, -, cores, hc, _, -, given⟩ := h
  cases given
  obtain ⟨w, -, number⟩ := Record.required_given hc
  exact Value.isFinite_of_float? number

theorem FormDocument.isFinite_of_ofJson? {v : Value} {f : FormDocument} (h : ofJson? v = some f) :
    f.cores.isFinite = true := by
  simp only [ofJson?, Option.bind_eq_bind, Option.bind_eq_some_iff] at h
  obtain ⟨r, -, _, -, _, -, _, -, _, -, cores, hc, _, -, _, -, _, -, _, -, given⟩ := h
  cases given
  rcases Record.defaulted_given hc with rfl | ⟨w, -, number⟩
  · exact isFinite_zero
  · exact Value.isFinite_of_float? number

namespace Snapshot

namespace Codec

section
variable {codec : Codec} {v : Value} {s : Snapshot} (h : codec.ofJson? v = some s)
include h

/-- Where the time and the doubles of a snapshot come from. -/
theorem ofJson?_given : ∃ r, v.fields? fields = some r ∧
    r.optional "captured_at" (fun v => v.text?.bind codec.moment?) = some s.capturedAt ∧
    r.defaulted "nodes" (Value.list? NodeListing.ofJson?) [] = some s.nodes ∧
    r.defaulted "form" FormDocument.ofJson? .empty = some s.form ∧
    r.optional "saved" FormDocument.ofJson? = some s.saved := by
  obtain ⟨r, read, h⟩ := Option.bind_eq_some_iff.mp h
  obtain ⟨captured, hc, h⟩ := Option.bind_eq_some_iff.mp h
  obtain ⟨nodes, hn, h⟩ := Option.bind_eq_some_iff.mp h
  obtain ⟨_, -, h⟩ := Option.bind_eq_some_iff.mp h
  obtain ⟨_, -, h⟩ := Option.bind_eq_some_iff.mp h
  obtain ⟨_, -, h⟩ := Option.bind_eq_some_iff.mp h
  obtain ⟨form, hf, h⟩ := Option.bind_eq_some_iff.mp h
  obtain ⟨saved, hs, h⟩ := Option.bind_eq_some_iff.mp h
  obtain ⟨_, -, h⟩ := Option.bind_eq_some_iff.mp h
  obtain ⟨_, -, h⟩ := Option.bind_eq_some_iff.mp h
  obtain ⟨_, -, h⟩ := Option.bind_eq_some_iff.mp h
  obtain ⟨_, -, given⟩ := Option.bind_eq_some_iff.mp h
  cases given
  exact ⟨r, read, hc, hn, hf, hs⟩

theorem doubles_isFinite : ∀ x ∈ s.doubles, x.isFinite = true := by
  obtain ⟨r, -, -, hn, hf, hs⟩ := ofJson?_given h
  intro x hx
  simp only [doubles, List.mem_append, List.mem_map, List.mem_cons, Option.mem_toList,
    Option.map_eq_some_iff] at hx
  rcases hx with ⟨n, member, rfl⟩ | rfl | ⟨f, member, rfl⟩
  · rcases Record.defaulted_given hn with none | ⟨w, -, back⟩
    · rw [none] at member
      cases member
    · obtain ⟨item, back⟩ := Value.mem_of_list? back n member
      exact NodeListing.isFinite_of_ofJson? back
  · rcases Record.defaulted_given hf with none | ⟨w, -, back⟩
    · rw [none]
      exact isFinite_zero
    · exact FormDocument.isFinite_of_ofJson? back
  · obtain ⟨w, -, back⟩ := Record.optional_given hs f member
    exact FormDocument.isFinite_of_ofJson? back

end

/-- What is taken for granted of numbers, strings and points in time: that of each the text is read
back as what was written. -/
structure ReadsBack (codec : Codec) (s : Snapshot) : Prop where
  real : ∀ x ∈ s.doubles, x.isFinite = true → codec.KeepsNumber (.real x)
  natural : ∀ n < UInt64.size, codec.KeepsNumber (.natural n)
  string (text : String) : codec.KeepsString text
  moment : ∀ t ∈ s.capturedAt, codec.moment? (codec.momentText t) = some t

end Codec

/-! ## The standard codec -/

/-- The time of a snapshot that is read is one that can be written. -/
theorem captured_proper {document : String} {s : Snapshot} (h : read? document = some s) :
    ∀ t ∈ s.capturedAt, t.Proper := by
  obtain ⟨v, -, h⟩ := Option.bind_eq_some_iff.mp h
  obtain ⟨r, -, hc, -⟩ := Codec.ofJson?_given h
  intro t ht
  obtain ⟨w, -, back⟩ := Record.optional_given hc t ht
  obtain ⟨text, -, read⟩ := Option.bind_eq_some_iff.mp back
  exact Timestamp.read?_proper read

/-- What was read is read back, if its doubles have few digits. -/
theorem standard_readsBack {document : String} {s : Snapshot} (h : read? document = some s)
    (short : ∀ x ∈ s.doubles, Json.HasShortText x) : Codec.standard.ReadsBack s where
  real x hx finite := Json.keepsNumber_real finite (short x hx)
  natural _ small := Json.keepsNumber_natural small
  string := Json.keepsString
  moment t ht := Timestamp.read?_text (captured_proper h t ht)

end Snapshot

end Provision
