/-!
# Fallible steps and lists of them

Steps are taken in order, and the first fault is the answer; so it is with the entries of a list.

- `bind_eq_ok_iff`: two steps succeed exactly when both do, one after the other.
- `map_eq_ok_iff`: a step whose result is changed succeeds exactly when it does.
- `mapError_eq_ok_iff`, `mapError_eq_error_iff`: a step whose fault is renamed goes as it did.
- `mapM_eq_ok_iff`: the reading succeeds exactly when each entry's does, with those results.
- `mapM_eq_error_iff`: it fails with the fault of the first entry that does not read.
- `map_ok_iff`: it succeeds exactly when no entry fails.
- `mapM_mapError_map`: faults can be renamed, and results changed, entry by entry or at the end.
-/

namespace Provision.Traversal

universe u v w

variable {α β ε : Type}

theorem bind_eq_ok_iff {x : Except ε α} {f : α → Except ε β} {b : β} :
    (x >>= f) = .ok b ↔ ∃ a, x = .ok a ∧ f a = .ok b := by
  cases x <;> simp [bind, Except.bind]

theorem map_eq_ok_iff {x : Except ε α} {g : α → β} {b : β} :
    x.map g = .ok b ↔ ∃ a, x = .ok a ∧ b = g a := by
  cases x <;> simp [Except.map, eq_comm]

theorem mapError_eq_ok_iff {α : Type u} {ε : Type v} {ε' : Type w} {f : ε → ε'}
    {x : Except ε α} {a : α} : x.mapError f = .ok a ↔ x = .ok a := by
  cases x with
  | ok b =>
    have same : (Except.ok b : Except ε α).mapError f = .ok b := rfl
    simp only [same, Except.ok.injEq]
  | error e => constructor <;> intro h <;> cases h

theorem mapError_eq_error_iff {α : Type u} {ε : Type v} {ε' : Type w} {f : ε → ε'}
    {x : Except ε α} {e : ε'} : x.mapError f = .error e ↔ ∃ e', e = f e' ∧ x = .error e' := by
  cases x with
  | ok a =>
    constructor
    · intro h
      cases h
    · rintro ⟨_, -, h⟩
      cases h
  | error e' =>
    have same : (Except.error e' : Except ε α).mapError f = .error (f e') := rfl
    simp only [same, Except.error.injEq]
    constructor
    · rintro rfl
      exact ⟨e', rfl, rfl⟩
    · rintro ⟨_, rfl, rfl⟩
      rfl

theorem mapM_eq_ok_iff {f : α → Except ε β} {xs : List α} {ys : List β} :
    xs.mapM f = .ok ys ↔ xs.map f = ys.map .ok := by
  induction xs generalizing ys with
  | nil => cases ys <;> simp [pure, Except.pure]
  | cons x xs ih =>
    rw [List.mapM_cons, List.map_cons]
    cases hx : f x with
    | error e => cases ys <;> simp [bind, Except.bind]
    | ok y =>
      cases ys with
      | nil => cases hxs : xs.mapM f <;> simp [bind, Except.bind, pure, Except.pure]
      | cons z zs =>
        rw [List.map_cons, List.cons.injEq, ← ih]
        cases hxs : xs.mapM f <;> simp [bind, Except.bind, pure, Except.pure]

theorem mapM_eq_error_iff {f : α → Except ε β} {xs : List α} {e : ε} :
    xs.mapM f = .error e ↔
      ∃ good bad rest, xs = good ++ bad :: rest ∧ (∃ ys : List β, good.map f = ys.map .ok) ∧
        f bad = .error e := by
  induction xs with
  | nil => simp [pure, Except.pure]
  | cons x xs ih =>
    rw [List.mapM_cons]
    cases hx : f x with
    | error e' =>
      simp only [bind, Except.bind, Except.error.injEq]
      constructor
      · rintro rfl
        exact ⟨[], x, xs, rfl, ⟨[], rfl⟩, hx⟩
      · rintro ⟨good, bad, rest, heq, ⟨ys, hgood⟩, hbad⟩
        cases good with
        | nil => simp_all
        | cons a as => cases ys <;> simp_all
    | ok y =>
      have step : (Except.ok y >>= fun y => do
          let ys ← xs.mapM f
          pure (y :: ys)) = .error e ↔ xs.mapM f = .error e := by
        cases hxs : xs.mapM f <;> simp [bind, Except.bind, pure, Except.pure]
      rw [step, ih]
      constructor
      · rintro ⟨good, bad, rest, rfl, ⟨ys, hgood⟩, hbad⟩
        exact ⟨x :: good, bad, rest, rfl, ⟨y :: ys, by simp [hx, hgood]⟩, hbad⟩
      · rintro ⟨good, bad, rest, heq, ⟨ys, hgood⟩, hbad⟩
        cases good with
        | nil => simp_all
        | cons a as =>
          cases ys with
          | nil => simp at hgood
          | cons z zs =>
            simp only [List.cons_append, List.cons.injEq] at heq
            simp only [List.map_cons, List.cons.injEq] at hgood
            exact ⟨as, bad, rest, heq.2, ⟨zs, hgood.2⟩, hbad⟩

/-- The results of all entries are there exactly when each entry has one. -/
theorem map_ok_iff {f : α → Except ε β} {xs : List α} :
    (∃ ys : List β, xs.map f = ys.map .ok) ↔ ∀ x ∈ xs, ∃ y, f x = .ok y := by
  induction xs with
  | nil => exact iff_of_true ⟨[], rfl⟩ fun _ h => nomatch h
  | cons x xs ih =>
    rw [List.forall_mem_cons, ← ih]
    constructor
    · rintro ⟨ys, h⟩
      cases ys with
      | nil => cases h
      | cons y ys =>
        obtain ⟨head, tail⟩ := List.cons.inj h
        exact ⟨⟨y, head⟩, ys, tail⟩
    · rintro ⟨⟨y, head⟩, ys, tail⟩
      exact ⟨y :: ys, by rw [List.map_cons, List.map_cons, head, tail]⟩

theorem mapM_mapError_map {γ ε' : Type} (f : α → Except ε β) (rename : ε → ε') (g : β → γ)
    (xs : List α) : xs.mapM (fun x => ((f x).mapError rename).map g) =
      ((xs.mapM f).mapError rename).map (List.map g) := by
  induction xs with
  | nil => rfl
  | cons x xs ih =>
    rw [List.mapM_cons, List.mapM_cons, ih]
    cases f x with
    | error e => rfl
    | ok y => cases xs.mapM f <;> rfl

end Provision.Traversal
