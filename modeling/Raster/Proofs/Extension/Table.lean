import Mathlib.Data.List.Nodup
import Mathlib.Data.List.Perm.Basic
import Mathlib.Data.String.Basic
import Raster.Extension.Table
/-!
# Tables whose keys ascend

`Table.put` and `Table.remove` keep the keys of a table in ascending order.  Such a table is
determined by its look-ups (`Table.IsSorted.ext`), so an edit that is taken back leaves the
table that was there, entry by entry.
-/

namespace Raster.Table

variable {α : Type} {key k : String} {value v : α} {t u : Table α}

/-! ## Look-ups -/

lemma get?_cons (key k : String) (value : α) (t : Table α) :
    get? key ((k, value) :: t) = if k = key then some value else get? key t := rfl

lemma get?_put (key k : String) (value : α) (t : Table α) :
    get? k (put key value t) = if key = k then some value else get? k t := by
  induction t with
  | nil => rfl
  | cons e t ih =>
    obtain ⟨k', v'⟩ := e
    rw [put]
    by_cases hlt : key < k'
    · rw [if_pos hlt]
      rfl
    · rw [if_neg hlt]
      by_cases hkey : k' = key
      · subst hkey
        rw [if_pos rfl, get?, get?]
        by_cases hk : k' = k
        · rw [if_pos hk, if_pos hk]
        · rw [if_neg hk, if_neg hk, if_neg hk]
      · rw [if_neg hkey, get?, get?, ih]
        by_cases hk : k' = k
        · subst hk
          rw [if_pos rfl, if_pos rfl, if_neg fun h => hkey h.symm]
        · rw [if_neg hk, if_neg hk]

lemma get?_remove (key k : String) (t : Table α) :
    get? k (remove key t) = if key = k then none else get? k t := by
  induction t with
  | nil =>
    split <;> rfl
  | cons e t ih =>
    obtain ⟨k', v'⟩ := e
    by_cases hkey : k' = key
    · have hremove : remove key ((k', v') :: t) = remove key t := by simp [remove, hkey]
      rw [hremove, ih, get?_cons]
      by_cases hk : key = k
      · rw [if_pos hk, if_pos hk]
      · have hk' : k' ≠ k := fun h => hk (hkey.symm.trans h)
        rw [if_neg hk, if_neg hk, if_neg hk']
    · have hremove : remove key ((k', v') :: t) = (k', v') :: remove key t := by
        simp [remove, hkey]
      rw [hremove, get?_cons, get?_cons, ih]
      by_cases hk : k' = k
      · have hk' : key ≠ k := fun h => hkey (hk.trans h.symm)
        rw [if_pos hk, if_pos hk, if_neg hk']
      · rw [if_neg hk, if_neg hk]

lemma mem_of_get? (h : get? key t = some value) : (key, value) ∈ t := by
  induction t with
  | nil => cases h
  | cons e t ih =>
    obtain ⟨k, v⟩ := e
    rw [get?_cons] at h
    by_cases hk : k = key
    · rw [if_pos hk] at h
      cases hk
      cases h
      exact List.mem_cons_self
    · rw [if_neg hk] at h
      exact List.mem_cons_of_mem _ (ih h)

/-! ## Ascending keys -/

lemma mem_keys_put : k ∈ keys (put key value t) ↔ k = key ∨ k ∈ keys t := by
  induction t with
  | nil => simp [put, keys]
  | cons e t ih =>
    obtain ⟨k', v'⟩ := e
    rw [put]
    by_cases hlt : key < k'
    · rw [if_pos hlt]
      simp [keys]
    · rw [if_neg hlt]
      by_cases hkey : k' = key
      · rw [if_pos hkey]
        simp [keys, hkey]
      · rw [if_neg hkey]
        have hcons : ∀ u : Table α, k ∈ keys ((k', v') :: u) ↔ k = k' ∨ k ∈ keys u := by
          intro u
          simp [keys]
        rw [hcons, hcons, ih]
        constructor
        · rintro (h | h | h)
          · exact Or.inr (Or.inl h)
          · exact Or.inl h
          · exact Or.inr (Or.inr h)
        · rintro (h | h | h)
          · exact Or.inr (Or.inl h)
          · exact Or.inl h
          · exact Or.inr (Or.inr h)

/-- The keys ascend, so each of them has one entry. -/
def IsSorted (t : Table α) : Prop := (keys t).Pairwise (· < ·)

namespace IsSorted

lemma nil : IsSorted ([] : Table α) := List.Pairwise.nil

lemma tail (h : IsSorted ((k, v) :: t)) : IsSorted t := (List.pairwise_cons.1 h).2

lemma lt_of_mem (h : IsSorted ((k, v) :: t)) (hmem : (key, value) ∈ t) : k < key :=
  (List.pairwise_cons.1 h).1 key (List.mem_map_of_mem hmem)

lemma keys_nodup (h : IsSorted t) : (keys t).Nodup :=
  List.Pairwise.imp (fun hlt => ne_of_lt hlt) h

lemma get?_eq_some_iff (h : IsSorted t) : get? key t = some value ↔ (key, value) ∈ t := by
  refine ⟨mem_of_get?, fun hmem => ?_⟩
  induction t with
  | nil => cases hmem
  | cons e t ih =>
    obtain ⟨k, v⟩ := e
    rw [get?_cons]
    rcases List.mem_cons.1 hmem with heq | hmem
    · cases heq
      rw [if_pos rfl]
    · have hne : k ≠ key := ne_of_lt (h.lt_of_mem hmem)
      rw [if_neg hne]
      exact ih h.tail hmem

lemma put (h : IsSorted t) : IsSorted (put key value t) := by
  induction t with
  | nil => exact List.pairwise_singleton _ _
  | cons e t ih =>
    obtain ⟨k, v⟩ := e
    have hcons := List.pairwise_cons.1 h
    rw [Table.put]
    by_cases hlt : key < k
    · rw [if_pos hlt]
      refine List.pairwise_cons.2 ⟨fun k' hk' => ?_, h⟩
      rcases List.mem_cons.1 hk' with rfl | hk'
      · exact hlt
      · exact lt_trans hlt (hcons.1 k' hk')
    · rw [if_neg hlt]
      by_cases hkey : k = key
      · rw [if_pos hkey, ← hkey]
        exact h
      · rw [if_neg hkey]
        have hgt : k < key := lt_of_le_of_ne (not_lt.1 hlt) hkey
        refine List.pairwise_cons.2 ⟨fun k' hk' => ?_, ih h.tail⟩
        rcases mem_keys_put.1 hk' with rfl | hk'
        · exact hgt
        · exact hcons.1 k' hk'

lemma remove (h : IsSorted t) : IsSorted (remove key t) := by
  have hsub : (Table.remove key t).Sublist t := List.filter_sublist
  exact List.Pairwise.sublist (hsub.map Prod.fst) h

/-- A table is determined by its look-ups. -/
lemma ext (ht : IsSorted t) (hu : IsSorted u) (h : ∀ k, get? k t = get? k u) : t = u := by
  have hmem : ∀ e, e ∈ t ↔ e ∈ u := by
    rintro ⟨k, v⟩
    rw [← ht.get?_eq_some_iff, ← hu.get?_eq_some_iff, h]
  have hperm : t.Perm u :=
    (List.perm_ext_iff_of_nodup (List.Nodup.of_map _ ht.keys_nodup)
      (List.Nodup.of_map _ hu.keys_nodup)).2 hmem
  have hantisymm : ∀ a b : String × α, a ∈ t → b ∈ u → a.1 < b.1 → b.1 < a.1 → a = b :=
    fun a b _ _ hab hba => absurd hab (lt_asymm hba)
  exact List.Perm.eq_of_pairwise hantisymm (List.pairwise_map.1 ht) (List.pairwise_map.1 hu) hperm

/-- A key that was not there is put in and taken out again. -/
lemma remove_put (h : IsSorted t) (hnew : get? key t = none) :
    Table.remove key (Table.put key value t) = t := by
  refine ext h.put.remove h fun k => ?_
  rw [get?_remove, get?_put]
  by_cases hk : key = k
  · rw [if_pos hk, ← hk, hnew]
  · rw [if_neg hk, if_neg hk]

/-- A value is replaced and put back. -/
lemma put_put_of_get? (h : IsSorted t) (hold : get? key t = some v) :
    Table.put key v (Table.put key value t) = t := by
  refine ext h.put.put h fun k => ?_
  rw [get?_put, get?_put]
  by_cases hk : key = k
  · rw [if_pos hk, ← hk, hold]
  · rw [if_neg hk, if_neg hk]

end IsSorted

end Raster.Table
