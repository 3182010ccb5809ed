import Mathlib.Data.List.Forall2
import Mathlib.Tactic.Common
/-!
# Traversals that may fail

A traversal of a list stops at the first element that fails.  So it fails only as an element
does, and not at all if no element does.  Steps that change a state as well stop in the same way,
and the state stays what it was then.
-/

namespace Raster

variable {ε α β : Type}

/-- A step that is followed by another has not failed. -/
lemma exists_of_bind_eq_ok {x : Except ε α} {f : α → Except ε β} {b : β}
    (h : (x >>= f) = .ok b) : ∃ a, x = .ok a ∧ f a = .ok b := by
  cases x with
  | error e => cases h
  | ok a => exact ⟨a, rfl, h⟩

lemma forM_eq_ok_iff (f : α → Except ε Unit) (l : List α) :
    l.forM f = .ok () ↔ ∀ x ∈ l, f x = .ok () := by
  induction l with
  | nil => simp [pure, Except.pure]
  | cons x l ih =>
    rw [List.forall_mem_cons, ← ih]
    cases hx : f x with
    | error e => simp [hx, bind, Except.bind]
    | ok u => simp [hx, bind, Except.bind]

/-- That a function fails nowhere in a list can be computed. -/
lemma exists_ok_of_all {f : α → Except ε β} {l : List α}
    (h : l.all (fun x => (f x).isOk) = true) {x : α} (hx : x ∈ l) : ∃ y, f x = .ok y := by
  have hok := List.all_eq_true.1 h x hx
  cases hf : f x with
  | error e => simp [hf, Except.isOk, Except.toBool] at hok
  | ok y => exact ⟨y, rfl⟩

/-- A traversal that fails does so at an element. -/
lemma exists_of_mapM_error {f : α → Except ε β} {l : List α} {e : ε}
    (h : l.mapM f = .error e) : ∃ x ∈ l, f x = .error e := by
  induction l with
  | nil => cases h
  | cons x l ih =>
    rw [List.mapM_cons] at h
    cases hx : f x with
    | error e' =>
      rw [hx] at h
      cases h
      exact ⟨x, List.mem_cons_self, hx⟩
    | ok y =>
      rw [hx] at h
      cases hl : l.mapM f with
      | error e' =>
        rw [hl] at h
        cases h
        obtain ⟨x', hx', hf⟩ := ih hl
        exact ⟨x', List.mem_cons_of_mem x hx', hf⟩
      | ok ys =>
        rw [hl] at h
        cases h

lemma exists_filterMapM {f : α → Except ε (Option β)} {l : List α}
    (h : ∀ x ∈ l, ∃ y, f x = .ok y) : ∃ ys, l.filterMapM f = .ok ys := by
  induction l with
  | nil => exact ⟨[], rfl⟩
  | cons x l ih =>
    rw [List.forall_mem_cons] at h
    obtain ⟨y, hy⟩ := h.1
    obtain ⟨ys, hys⟩ := ih h.2
    rw [List.filterMapM_cons, hy, hys]
    cases y with
    | none => exact ⟨ys, rfl⟩
    | some y => exact ⟨y :: ys, rfl⟩

lemma filterMapM_eq_nil {f : α → Except ε (Option β)} {l : List α}
    (h : ∀ x ∈ l, f x = .ok none) : l.filterMapM f = .ok [] := by
  induction l with
  | nil => rfl
  | cons x l ih =>
    rw [List.forall_mem_cons] at h
    rw [List.filterMapM_cons, h.1]
    exact ih h.2

lemma mapM_eq_map {f : α → Except ε β} {g : α → β} {l : List α} (h : ∀ x ∈ l, f x = .ok (g x)) :
    l.mapM f = .ok (l.map g) := by
  induction l with
  | nil => rfl
  | cons x l ih =>
    rw [List.forall_mem_cons] at h
    rw [List.mapM_cons, h.1, ih h.2]
    rfl

/-- What a traversal returns, element by element. -/
lemma mapM_eq_ok_iff {f : α → Except ε β} {l : List α} {ys : List β} :
    l.mapM f = .ok ys ↔ List.Forall₂ (fun x y => f x = .ok y) l ys := by
  induction l generalizing ys with
  | nil => simp [pure, Except.pure, eq_comm]
  | cons x l ih =>
    rw [List.mapM_cons, List.forall₂_cons_left_iff]
    constructor
    · intro h
      obtain ⟨y, hy, h⟩ := exists_of_bind_eq_ok h
      obtain ⟨rest, hrest, h⟩ := exists_of_bind_eq_ok h
      exact ⟨y, rest, hy, ih.1 hrest, (Except.ok.inj h).symm⟩
    · rintro ⟨y, rest, hy, hrest, rfl⟩
      rw [hy, ih.2 hrest]
      rfl

lemma exists_of_mapM_ok {f : α → Except ε β} {l : List α} {ys : List β} (h : l.mapM f = .ok ys) :
    ∀ y ∈ ys, ∃ x ∈ l, f x = .ok y := by
  induction l generalizing ys with
  | nil =>
    cases h
    simp
  | cons x l ih =>
    rw [List.mapM_cons] at h
    cases hx : f x with
    | error e =>
      rw [hx] at h
      cases h
    | ok y =>
      cases hl : l.mapM f with
      | error e =>
        rw [hx, hl] at h
        cases h
      | ok rest =>
        rw [hx, hl] at h
        cases h
        rw [List.forall_mem_cons]
        refine ⟨⟨x, List.mem_cons_self, hx⟩, fun y' hy' => ?_⟩
        obtain ⟨x', hx', hf⟩ := ih hl y' hy'
        exact ⟨x', List.mem_cons_of_mem x hx', hf⟩

/-! ## Steps that change a state -/

/-- What follows a step starts where the step ended, unless that failed. -/
lemma run_bind {σ α β : Type} (x : ExceptT ε (StateM σ) α)
    (next : α → ExceptT ε (StateM σ) β) (s : σ) :
    (x >>= next).run.run s =
      match x.run.run s with
      | (.ok a, s') => (next a).run.run s'
      | (.error e, s') => (.error e, s') := by
  have hbind : (x >>= next).run.run s =
      (ExceptT.bindCont next (x.run.run s).1).run (x.run.run s).2 := rfl
  rw [hbind]
  rcases x.run.run s with ⟨a | e, s'⟩
  · rfl
  · rfl

/-! ## Changing the results -/

lemma mapM_except_map {γ : Type} (f : α → Except ε β) (u : β → γ) (l : List α) :
    (l.mapM fun x => (f x).map u) = (l.mapM f).map (List.map u) := by
  induction l with
  | nil => rfl
  | cons x l ih =>
    rw [List.mapM_cons, List.mapM_cons, ih]
    cases f x with
    | error e => rfl
    | ok y => cases l.mapM f <;> rfl

/-- A traversal that finds the same result at every element finds it once. -/
lemma mapM_const {γ : Type} (r : Except ε β) (u : α → β → γ) {l : List α} (hl : l ≠ []) :
    (l.mapM fun x => r.map (u x)) = r.map fun y => l.map fun x => u x y := by
  cases r with
  | error e =>
    cases l with
    | nil => exact absurd rfl hl
    | cons x l => rfl
  | ok y => exact mapM_eq_map fun x _ => rfl

/-- Where an element may be taken apart before the function works on it or after, so may the
elements of a list. -/
lemma mapM_flatMap {f : α → Except ε α} {parts : α → List α} {l : List α}
    (h : ∀ x ∈ l, (parts x).mapM f = (f x).map parts) :
    (l.flatMap parts).mapM f = (l.mapM f).map fun ys => ys.flatMap parts := by
  induction l with
  | nil => rfl
  | cons x l ih =>
    rw [List.forall_mem_cons] at h
    rw [List.flatMap_cons, List.mapM_append, List.mapM_cons, h.1, ih h.2]
    cases f x with
    | error e => rfl
    | ok y => cases l.mapM f <;> rfl

lemma except_map_injective {u : α → β} (hu : Function.Injective u) :
    Function.Injective (Except.map u : Except ε α → Except ε β) := by
  rintro (e | x) (e' | y) h
  · cases h
    rfl
  · cases h
  · cases h
  · exact congrArg Except.ok (hu (Except.ok.inj h))

lemma toList_vector_mapM {n : Nat} (f : α → Except ε β) (xs : Vector α n) :
    (xs.mapM f).map Vector.toList = xs.toList.mapM f := by
  have hlist : Array.toList <$> xs.toArray.mapM f = xs.toArray.toList.mapM f :=
    Array.toList_mapM
  rw [← Vector.toArray_mapM] at hlist
  cases hxs : xs.mapM f with
  | error e =>
    rw [hxs] at hlist
    exact hlist
  | ok ys =>
    rw [hxs] at hlist
    exact hlist

lemma vector_mapM_except_map {γ : Type} {n : Nat} (f : α → Except ε β) (u : β → γ)
    (xs : Vector α n) : (xs.mapM fun x => (f x).map u) = (xs.mapM f).map (Vector.map u) := by
  refine except_map_injective (fun _ _ => Vector.toList_inj.1) ?_
  rw [toList_vector_mapM, mapM_except_map, ← toList_vector_mapM]
  cases xs.mapM f with
  | error e => rfl
  | ok ys => exact congrArg Except.ok Vector.toList_map.symm

end Raster
