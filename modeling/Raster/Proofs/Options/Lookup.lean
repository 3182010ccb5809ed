import Mathlib.Tactic.Common
import Raster.Schema.Schema
/-!
# Looking options up

An option map is a list of entries in no particular order; what counts is which value a key
has.  These lemmas say what a key has after an insertion and after a default was put in its
place, when a gate is open, and what the typed getters return.
-/

namespace Raster

namespace Options

/-! ## Entries and values -/

lemma find?_put (key k : String) (value : OptionValue) (l : List (String × OptionValue)) :
    find? k (put key value l) = if key = k then some value else find? k l := by
  induction l with
  | nil => simp [put, find?]
  | cons e l ih =>
    obtain ⟨k', v'⟩ := e
    by_cases hk : k' = key
    · subst hk
      by_cases hk' : k' = k
      · simp [put, find?, hk']
      · simp [put, find?, hk']
    · rw [put, if_neg hk, find?, ih, find?]
      by_cases hk' : k' = k
      · subst hk'
        simp [Ne.symm hk]
      · simp [hk']

@[simp] lemma get?_insert (o : Options) (key k : String) (value : OptionValue) :
    (o.insert key value).get? k = if key = k then some value else o.get? k :=
  find?_put key k value o.entries

lemma mem_of_find? {k : String} {v : OptionValue} {l : List (String × OptionValue)}
    (h : find? k l = some v) : (k, v) ∈ l := by
  induction l with
  | nil => simp [find?] at h
  | cons e l ih =>
    obtain ⟨k', v'⟩ := e
    by_cases hk : k' = k
    · subst hk
      have hv : v' = v := by simpa [find?] using h
      simp [hv]
    · rw [find?, if_neg hk] at h
      exact List.mem_cons_of_mem _ (ih h)

lemma find?_of_mem {k : String} {v : OptionValue} {l : List (String × OptionValue)}
    (hl : (l.map (·.1)).Nodup) (h : (k, v) ∈ l) : find? k l = some v := by
  induction l with
  | nil => simp at h
  | cons e l ih =>
    obtain ⟨k', v'⟩ := e
    rw [List.map_cons, List.nodup_cons] at hl
    rcases List.mem_cons.1 h with h | h
    · obtain ⟨rfl, rfl⟩ := Prod.mk.inj h
      simp [find?]
    · -- the key of the first entry does not come again
      have hk : k' ≠ k := by
        rintro rfl
        exact hl.1 (List.mem_map.2 ⟨_, h, rfl⟩)
      rw [find?, if_neg hk]
      exact ih hl.2 h

/-- The entries of a map are the keys with their values. -/
lemma mem_entries {o : Options} {k : String} {v : OptionValue} :
    (k, v) ∈ o.entries ↔ o.get? k = some v :=
  ⟨find?_of_mem o.nodup, mem_of_find?⟩

/-- The order of the entries has no meaning. -/
lemma get?_of_perm {o o' : Options} (h : o'.entries.Perm o.entries) (k : String) :
    o'.get? k = o.get? k := by
  apply Option.ext
  intro v
  rw [← mem_entries, ← mem_entries, h.mem_iff]

/-! ## Defaults -/

/-- A default does not change a value that is there. -/
lemma get?_insertNew_of_some {o : Options} {k : String} {v : OptionValue} (key : String)
    (value : OptionValue) (h : o.get? k = some v) : (o.insertNew key value).get? k = some v := by
  unfold insertNew
  split
  · exact h
  · rename_i hc
    have hk : key ≠ k := by
      rintro rfl
      simp [contains, h] at hc
    simp [hk, h]

lemma get?_insertNew_self (o : Options) (key : String) (value : OptionValue) :
    (o.insertNew key value).get? key = some ((o.get? key).getD value) := by
  unfold insertNew
  split
  · rename_i hc
    obtain ⟨v, hv⟩ := Option.isSome_iff_exists.1 hc
    simp [hv]
  · rename_i hc
    have hn : o.get? key = none := by simpa [contains] using hc
    simp [hn]

lemma get?_insertNew (o : Options) (key k : String) (value : OptionValue) :
    (o.insertNew key value).get? k =
      if key = k then some ((o.get? key).getD value) else o.get? k := by
  split
  · rename_i hk
    subst hk
    exact get?_insertNew_self o key value
  · rename_i hk
    unfold insertNew
    split
    · rfl
    · rw [get?_insert, if_neg hk]

/-- A value that is there after a default was put in was there before, or is the default. -/
lemma get?_of_insertNew {o : Options} {key k : String} {value v : OptionValue}
    (h : (o.insertNew key value).get? k = some v) :
    o.get? k = some v ∨ (k = key ∧ v = value) := by
  unfold insertNew at h
  split at h
  · exact Or.inl h
  · rw [get?_insert] at h
    split at h
    · rename_i hk
      exact Or.inr ⟨hk.symm, (Option.some.inj h).symm⟩
    · exact Or.inl h

lemma isOn_iff {o : Options} {key : String} :
    o.isOn key = true ↔ o.get? key = some (.bool true) := by
  unfold isOn
  split
  · rename_i b hb
    simp [hb]
  · rename_i hb
    constructor
    · simp
    · intro h
      exact absurd h (hb true)

/-! ## Typed getters -/

variable {o : Options} {key : String}

lemma bool_eq_ok {b : Bool} (h : o.get? key = some (.bool b)) : o.bool key = .ok b := by
  simp [bool, require, h, bind, Except.bind, pure, Except.pure]

lemma int_eq_ok {n : Int32} (h : o.get? key = some (.int n)) : o.int key = .ok n.toInt := by
  simp [int, require, h, bind, Except.bind, pure, Except.pure]

lemma text_eq_ok {s : String} (h : o.get? key = some (.text s)) : o.text key = .ok s := by
  simp [text, require, h, bind, Except.bind, pure, Except.pure]

lemma double_eq_ok {v : OptionValue} {x : Float} (h : o.get? key = some v)
    (hx : v.toDouble? = some x) : o.double key = .ok x := by
  simp [double, require, h, hx, bind, Except.bind, pure, Except.pure]

lemma exists_of_double_eq_ok {x : Float} (h : o.double key = .ok x) :
    ∃ v, o.get? key = some v ∧ v.toDouble? = some x := by
  cases hv : o.get? key with
  | none => simp [double, require, hv, bind, Except.bind] at h
  | some v =>
    cases hx : v.toDouble? with
    | none => simp [double, require, hv, hx, bind, Except.bind] at h
    | some y =>
      rw [double_eq_ok hv hx] at h
      exact ⟨v, rfl, hx.trans (congrArg some (Except.ok.inj h))⟩

end Options

/-- A gate is open if its key is on, or has no value while the gate is open by default. -/
lemma Gate.isOpen_iff {o : Options} {g : Gate} :
    g.isOpen o = true ↔
      o.get? g.id = some (.bool true) ∨ (o.get? g.id = none ∧ g.default = true) := by
  unfold Gate.isOpen
  split
  · rename_i b hb
    simp [hb]
  · rename_i v hv hb
    constructor
    · simp
    · rintro (h | h)
      · exact absurd (Option.some.inj (hb.symm.trans h)) (hv true)
      · simp [h.1] at hb
  · rename_i hn
    simp [hn]

end Raster
