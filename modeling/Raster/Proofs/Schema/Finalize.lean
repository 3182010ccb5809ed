import Raster.Proofs.Schema.Placement
/-!
# Filling in the defaults

`Schema.finalize` walks the schema from the top and inserts as it goes, so whether it enters the
nodes behind a gate depends on what it has inserted before.  Three facts describe the result
without the walk: no value is changed (`finalize_extends`), what is new is the default of a node
whose gates are all on in the result (`get?_of_finalize`), and every node whose gates are all on
in the result has a value there (`exists_get?_finalize`).

A gate that was open without having a value is on afterwards, so validity is kept
(`finalize_preserves_valid`).
-/

namespace Raster

/-- Every value of one map is a value of the other. -/
def Options.ExtendedBy (o o' : Options) : Prop :=
  ∀ key value, o.get? key = some value → o'.get? key = some value

namespace Options.ExtendedBy

variable {o o' o'' : Options}

lemma refl (o : Options) : o.ExtendedBy o := fun _ _ h => h

lemma trans (h : o.ExtendedBy o') (h' : o'.ExtendedBy o'') : o.ExtendedBy o'' :=
  fun key value hv => h' key value (h key value hv)

lemma isOn (h : o.ExtendedBy o') {key : String} (hk : o.isOn key = true) : o'.isOn key = true :=
  isOn_iff.2 (h _ _ (isOn_iff.1 hk))

/-- A key that is on in the end was on as soon as it had a value. -/
lemma isOn_of_some (h : o.ExtendedBy o') {key : String} {value : OptionValue}
    (hv : o.get? key = some value) (hk : o'.isOn key = true) : o.isOn key = true := by
  rw [isOn_iff, hv, ← h _ _ hv]
  exact isOn_iff.1 hk

lemma insertNew (o : Options) (key : String) (value : OptionValue) :
    o.ExtendedBy (o.insertNew key value) :=
  fun _ _ h => get?_insertNew_of_some key value h

end Options.ExtendedBy

/-- A gate that is on is open. -/
lemma Gate.isOpen_of_isOn {o : Options} {g : Gate} (h : o.isOn g.id = true) :
    g.isOpen o = true :=
  Gate.isOpen_iff.2 (Or.inl (Options.isOn_iff.1 h))

namespace Schema

/-- The map with which the nodes after a gate are filled in. -/
def pass (g : Gate) (inner : Schema) (o : Options) : Options :=
  let o := o.insertNew g.id (.bool g.default)
  if o.isOn g.id then inner.finalize o else o

lemma pass_of_isOn {g : Gate} {o : Options} (inner : Schema)
    (h : (o.insertNew g.id (.bool g.default)).isOn g.id = true) :
    pass g inner o = inner.finalize (o.insertNew g.id (.bool g.default)) :=
  if_pos h

lemma pass_of_not_isOn {g : Gate} {o : Options} (inner : Schema)
    (h : ¬(o.insertNew g.id (.bool g.default)).isOn g.id = true) :
    pass g inner o = o.insertNew g.id (.bool g.default) :=
  if_neg h

/-- Behind a gate no value is changed if its nodes change none. -/
lemma insertNew_extendedBy_pass (g : Gate) {inner : Schema}
    (hinner : ∀ o : Options, o.ExtendedBy (inner.finalize o)) (o : Options) :
    (o.insertNew g.id (.bool g.default)).ExtendedBy (pass g inner o) := by
  by_cases hg : (o.insertNew g.id (.bool g.default)).isOn g.id = true
  · rw [pass_of_isOn inner hg]
    exact hinner _
  · rw [pass_of_not_isOn inner hg]
    exact .refl _

lemma finalize_gated (g : Gate) (inner rest : Schema) (o : Options) :
    (gated g inner rest).finalize o = rest.finalize (pass g inner o) := rfl

/-- Filling in the defaults changes no value that is there. -/
lemma finalize_extends (s : Schema) (o : Options) : o.ExtendedBy (s.finalize o) := by
  induction s generalizing o with
  | nil => exact .refl o
  | header _ rest ih => exact ih o
  | setting s rest ih => exact (Options.ExtendedBy.insertNew o _ _).trans (ih _)
  | gated g inner rest ihi ihr =>
    have hpass := insertNew_extendedBy_pass g ihi o
    rw [finalize_gated]
    exact (Options.ExtendedBy.insertNew o _ _).trans (hpass.trans (ihr _))

/-- A value of the filled-in map was there before, or is the default of a placed node whose
gates are all on. -/
lemma get?_of_finalize (s : Schema) {o : Options} {key : String} {value : OptionValue}
    (h : (s.finalize o).get? key = some value) :
    o.get? key = some value ∨
      ∃ p ∈ s.placed, p.1.id = key ∧ p.1.default = value ∧
        ∀ g ∈ p.2, (s.finalize o).isOn g.id = true := by
  induction s generalizing o with
  | nil => exact Or.inl h
  | header _ rest ih => exact ih h
  | setting s rest ih =>
    rcases ih h with h | ⟨p, hp, hid, hd, hon⟩
    · rcases Options.get?_of_insertNew h with h | ⟨rfl, rfl⟩
      · exact Or.inl h
      · exact Or.inr ⟨_, List.mem_cons_self, rfl, rfl, by simp⟩
    · exact Or.inr ⟨p, List.mem_cons_of_mem _ hp, hid, hd, hon⟩
  | gated g inner rest ihi ihr =>
    rw [finalize_gated] at h ⊢
    rcases ihr h with h | ⟨p, hp, hid, hd, hon⟩
    · have hgate : (o.insertNew g.id (.bool g.default)).get? key = some value →
          o.get? key = some value ∨ ∃ p ∈ (gated g inner rest).placed, p.1.id = key ∧
            p.1.default = value ∧
              ∀ g' ∈ p.2, (rest.finalize (pass g inner o)).isOn g'.id = true := by
        intro h
        rcases Options.get?_of_insertNew h with h | ⟨rfl, rfl⟩
        · exact Or.inl h
        · exact Or.inr ⟨_, List.mem_cons_self, rfl, rfl, by simp⟩
      by_cases hg : (o.insertNew g.id (.bool g.default)).isOn g.id = true
      · have hext := finalize_extends rest (pass g inner o)
        rw [pass_of_isOn inner hg] at h hext
        rcases ihi h with h | ⟨p, hp, hid, hd, hon⟩
        · exact hgate h
        · -- a node behind the gate: the gate stays on while the rest is filled in
          refine Or.inr ⟨behind g p, ?_, hid, hd, ?_⟩
          · exact List.mem_cons_of_mem _ (List.mem_append_left _ (List.mem_map_of_mem hp))
          · rw [pass_of_isOn inner hg]
            have hg' := (finalize_extends inner _).isOn hg
            exact List.forall_mem_cons.2
              ⟨hext.isOn hg', fun g' hg'' => hext.isOn (hon g' hg'')⟩
      · rw [pass_of_not_isOn inner hg] at h
        exact hgate h
    · exact Or.inr ⟨p, List.mem_cons_of_mem _ (List.mem_append_right _ hp), hid, hd, hon⟩

/-- A placed node has a value in the filled-in map if its gates are all on in it, or in any map
that extends it. -/
lemma exists_get?_finalize (s : Schema) {o o' : Options} {p : OptionNode × List Gate}
    (hp : p ∈ s.placed) (hext : (s.finalize o).ExtendedBy o')
    (hon : ∀ g ∈ p.2, o'.isOn g.id = true) : ∃ value, (s.finalize o).get? p.1.id = some value := by
  induction s generalizing o p with
  | nil => simp [placed] at hp
  | header _ rest ih => exact ih hp hext hon
  | setting s rest ih =>
    rcases List.mem_cons.1 hp with rfl | hp
    · exact ⟨_, finalize_extends rest _ _ _ (Options.get?_insertNew_self o s.id _)⟩
    · exact ih hp hext hon
  | gated g inner rest ihi ihr =>
    rw [finalize_gated] at hext ⊢
    have hself := Options.get?_insertNew_self o g.id (.bool g.default)
    have hrest := finalize_extends rest (pass g inner o)
    have hpass := insertNew_extendedBy_pass g (finalize_extends inner) o
    rw [placed, List.mem_cons, List.mem_append, List.mem_map] at hp
    rcases hp with rfl | ⟨q, hq, rfl⟩ | hp
    · exact ⟨_, (hpass.trans hrest) _ _ hself⟩
    · -- the gate is on in the end, and had its value when it was reached
      have hg := ((hpass.trans hrest).trans hext).isOn_of_some hself (hon g List.mem_cons_self)
      rw [pass_of_isOn inner hg] at hrest hext ⊢
      obtain ⟨value, hv⟩ := ihi hq (hrest.trans hext) fun g' hg' =>
        hon g' (List.mem_cons_of_mem _ hg')
      exact ⟨value, hrest _ _ hv⟩
    · exact ihr hp hext hon

/-- A gate of the schema that is open stays open when the defaults are filled in. -/
lemma WellFormed.isOpen_finalize {s : Schema} (hs : s.WellFormed) {o : Options} {g : Gate}
    {gates : List Gate} (hp : (OptionNode.gate g, gates) ∈ s.placed) (h : g.isOpen o = true) :
    g.isOpen (s.finalize o) = true := by
  rcases Gate.isOpen_iff.1 h with hon | ⟨hnone, hdefault⟩
  · exact Gate.isOpen_iff.2 (Or.inl (finalize_extends s o _ _ hon))
  · cases hv : (s.finalize o).get? g.id with
    | none => exact Gate.isOpen_iff.2 (Or.inr ⟨hv, hdefault⟩)
    | some value =>
      -- the only node with this key is the gate itself, so the value is its default
      rcases get?_of_finalize s hv with hold | ⟨q, hq, hid, rfl, -⟩
      · rw [hnone] at hold
        exact absurd hold (by simp)
      · rw [hs.toDistinct.eq_of_id_eq hq hp hid] at hv
        rw [Gate.isOpen_iff, hv, ← hdefault]
        exact Or.inl rfl

/-- A value of the filled-in map is admitted, if those that were given are. -/
lemma WellFormed.admits_finalize {s : Schema} (hs : s.WellFormed) {o : Options}
    (ho : ∀ key value, o.get? key = some value → s.Admits o key value) {key : String}
    {value : OptionValue} (h : (s.finalize o).get? key = some value) :
    s.Admits (s.finalize o) key value := by
  rcases get?_of_finalize s h with hold | ⟨p, hp, rfl, rfl, hon⟩
  · obtain ⟨node, gates, hf, hfault, hopen⟩ := ho key value hold
    refine ⟨node, gates, hf, hfault, fun g hg => ?_⟩
    obtain ⟨outer, inner, rfl⟩ := List.append_of_mem hg
    exact hs.isOpen_finalize (gate_mem_placed (mem_placed_of_find? hf).1) (hopen g hg)
  · exact ⟨p.1, p.2, hs.toDistinct.find?_of_mem hp, hs.defaults_pass p hp, fun g hg =>
      Gate.isOpen_of_isOn (hon g hg)⟩

/-- **Filling in the defaults keeps an option map valid.** -/
theorem finalize_preserves_valid (s : Schema) (hs : s.WellFormed) (o : Options)
    (hv : s.validate o = .ok ()) : s.validate (s.finalize o) = .ok () := by
  rw [validate_eq_ok_iff] at hv ⊢
  intro key value h
  exact hs.admits_finalize hv h

/-- Two gates that are open by default, one inside the other, around a choice, and a number
after them. -/
def nestedGates : Schema :=
  gated ⟨"outer", "Outer", true, none⟩
    (gated ⟨"inner", "Inner", true, none⟩
      (setting ⟨"mode", "Mode", .choice "slow" ["slow", "fast"], none⟩ nil) nil)
    (setting ⟨"count", "Count", .int 3 (some (0, 9)), none⟩ nil)

/-- A choice behind two gates that have no value is valid, and stays valid when both are on. -/
theorem nestedGates_finalize_valid :
    nestedGates.validate (nestedGates.finalize (.ofList [("mode", .text "fast")])) = .ok () :=
  finalize_preserves_valid nestedGates (by decide) _ rfl

end Schema

end Raster
