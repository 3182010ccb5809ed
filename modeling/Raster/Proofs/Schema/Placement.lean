import Mathlib.Data.List.Nodup
import Raster.Proofs.Options.Lookup
import Raster.Proofs.Traversal
/-!
# Where the options of a schema stand

`Schema.placed` lists the nodes of a schema that have a key, each with the gates around it.  It
is the flat view of the tree: looking a key up means searching this list
(`find?_eq_find?_placed`), and an option map is valid exactly if every value in it belongs to a
placed node, passes its check, and stands behind open gates (`validate_eq_ok_iff`).

A schema is distinct if no key stands in it twice, and well formed if moreover every default passes
its own check.
-/

namespace Raster

namespace Schema

/-- Put a node behind one more gate, outside of those that are around it already. -/
def behind (g : Gate) (p : OptionNode × List Gate) : OptionNode × List Gate := (p.1, g :: p.2)

/-- The nodes that have a key, in the order in which they are written, each with the gates
around it, the outermost first. -/
def placed : Schema → List (OptionNode × List Gate)
  | nil => []
  | header _ rest => placed rest
  | setting s rest => (.setting s, []) :: placed rest
  | gated g inner rest => (.gate g, []) :: ((placed inner).map (behind g) ++ placed rest)

/-- The nodes that have a key, in the order in which they are written. -/
def optionNodes : Schema → List OptionNode
  | nil => []
  | header _ rest => optionNodes rest
  | setting s rest => .setting s :: optionNodes rest
  | gated g inner rest => .gate g :: (optionNodes inner ++ optionNodes rest)

lemma map_fst_placed (s : Schema) : s.placed.map (·.1) = s.optionNodes := by
  induction s with
  | nil => rfl
  | header _ rest ih => exact ih
  | setting s rest ih => exact congrArg _ ih
  | gated g inner rest ihi ihr =>
    have hbehind : (inner.placed.map (behind g)).map (·.1) = inner.placed.map (·.1) :=
      List.map_map
    rw [placed, optionNodes, List.map_cons, List.map_append, hbehind, ihi, ihr]

lemma exists_mem_placed {s : Schema} {node : OptionNode} :
    node ∈ s.optionNodes ↔ ∃ gates, (node, gates) ∈ s.placed := by
  simp [← map_fst_placed]

/-- No key stands in the schema twice. -/
def Distinct (s : Schema) : Prop := (s.optionNodes.map OptionNode.id).Nodup

instance (s : Schema) : Decidable s.Distinct :=
  inferInstanceAs (Decidable (s.optionNodes.map OptionNode.id).Nodup)

/-- No key stands in the schema twice, and every default passes the check of its node. -/
structure WellFormed (s : Schema) : Prop where
  distinct : (s.placed.map fun p => p.1.id).Nodup
  defaults_pass : ∀ p ∈ s.placed, p.1.fault? p.1.default = none

instance (s : Schema) : Decidable s.WellFormed :=
  decidable_of_iff ((s.placed.map fun p => p.1.id).Nodup ∧
      ∀ p ∈ s.placed, p.1.fault? p.1.default = none)
    ⟨fun h => ⟨h.1, h.2⟩, fun h => ⟨h.1, h.2⟩⟩

lemma WellFormed.toDistinct {s : Schema} (hs : s.WellFormed) : s.Distinct := by
  rw [Distinct, ← map_fst_placed, List.map_map]
  exact hs.distinct

/-! ## Looking a key up -/

/-- Looking a key up finds the first placed node that has it. -/
lemma find?_eq_find?_placed (key : String) (s : Schema) :
    s.find? key = s.placed.find? fun p => p.1.id = key := by
  induction s with
  | nil => rfl
  | header _ rest ih => exact ih
  | setting s rest ih =>
    by_cases hk : s.id = key
    · simp [find?, placed, OptionNode.id, hk]
    · simp [find?, placed, OptionNode.id, hk, ih]
  | gated g inner rest ihi ihr =>
    by_cases hk : g.id = key
    · simp [find?, placed, OptionNode.id, hk]
    · have hinner : (inner.placed.map (behind g)).find? (fun p => p.1.id = key)
          = (inner.find? key).map (behind g) := by
        rw [List.find?_map, ihi]
        rfl
      have hg : ¬(OptionNode.gate g).id = key := hk
      rw [find?, if_neg hk, placed, List.find?_cons, decide_eq_false hg, List.find?_append, hinner,
        ← ihr]
      cases inner.find? key <;> rfl

lemma mem_placed_of_find? {s : Schema} {key : String} {p : OptionNode × List Gate}
    (h : s.find? key = some p) : p ∈ s.placed ∧ p.1.id = key := by
  rw [find?_eq_find?_placed] at h
  exact ⟨List.mem_of_find?_eq_some h, by simpa using List.find?_some h⟩

/-- Two placed nodes with the same key are one node in one place. -/
lemma Distinct.eq_of_id_eq {s : Schema} (hs : s.Distinct) {p q : OptionNode × List Gate}
    (hp : p ∈ s.placed) (hq : q ∈ s.placed) (h : p.1.id = q.1.id) : p = q := by
  rw [Distinct, ← map_fst_placed, List.map_map] at hs
  exact List.inj_on_of_nodup_map hs hp hq h

/-- Every placed node is found under its key. -/
lemma Distinct.find?_of_mem {s : Schema} (hs : s.Distinct) {p : OptionNode × List Gate}
    (hp : p ∈ s.placed) : s.find? p.1.id = some p := by
  cases hf : s.find? p.1.id with
  | none =>
    rw [find?_eq_find?_placed, List.find?_eq_none] at hf
    exact absurd (hf p hp) (by simp)
  | some q =>
    obtain ⟨hq, hid⟩ := mem_placed_of_find? hf
    rw [hs.eq_of_id_eq hq hp hid]

/-- The gates around a placed node are placed themselves, each behind those that come before it. -/
lemma gate_mem_placed {s : Schema} {node : OptionNode} {g : Gate} {outer inner : List Gate}
    (hp : (node, outer ++ g :: inner) ∈ s.placed) : (.gate g, outer) ∈ s.placed := by
  induction s generalizing node g outer inner with
  | nil => simp [placed] at hp
  | header _ rest ih => exact ih hp
  | setting s rest ih =>
    rcases List.mem_cons.1 hp with hp | hp
    · simp at hp
    · exact List.mem_cons_of_mem _ (ih hp)
  | gated h body rest ihi ihr =>
    rw [placed, List.mem_cons, List.mem_append, List.mem_map] at hp
    rcases hp with hp | ⟨⟨node', gates⟩, hq, hp⟩ | hp
    · simp at hp
    · -- the gate itself, or a gate inside it
      obtain ⟨rfl, hgates⟩ := Prod.mk.inj hp
      cases outer with
      | nil =>
        obtain ⟨rfl, -⟩ := List.cons.inj hgates
        exact List.mem_cons_self
      | cons h' outer =>
        obtain ⟨rfl, rfl⟩ := List.cons.inj hgates
        exact List.mem_cons_of_mem _
          (List.mem_append_left _ (List.mem_map.2 ⟨_, ihi hq, rfl⟩))
    · exact List.mem_cons_of_mem _ (List.mem_append_right _ (ihr hp))

/-! ## Validity -/

/-- A value of a key is admitted: the key is declared, the value passes the check of its node,
and every gate around the node is open. -/
def Admits (s : Schema) (o : Options) (key : String) (value : OptionValue) : Prop :=
  ∃ node gates, s.find? key = some (node, gates) ∧ node.fault? value = none ∧
    ∀ g ∈ gates, g.isOpen o = true

lemma checkEntry_eq_ok_iff {s : Schema} {o : Options} {key : String} {value : OptionValue} :
    s.checkEntry o key value = .ok () ↔ s.Admits o key value := by
  unfold checkEntry Admits
  cases hf : s.find? key with
  | none => simp
  | some p =>
    obtain ⟨node, gates⟩ := p
    dsimp only
    cases hn : node.fault? value with
    | some fault => simp [hn]
    | none =>
      dsimp only
      cases hg : gates.find? fun g => !g.isOpen o with
      | some g =>
        have hm := List.mem_of_find?_eq_some hg
        have hc : g.isOpen o = false := by simpa using List.find?_some hg
        simp only [reduceCtorEq, false_iff]
        rintro ⟨node', gates', heq, -, hall⟩
        obtain ⟨rfl, rfl⟩ := Prod.mk.inj (Option.some.inj heq)
        simp [hall g hm] at hc
      | none =>
        rw [List.find?_eq_none] at hg
        refine iff_of_true rfl ⟨node, gates, rfl, hn, fun g hm => ?_⟩
        simpa using hg g hm

/-- An option map is valid exactly if all its values are admitted. -/
lemma validate_eq_ok_iff {s : Schema} {o : Options} :
    s.validate o = .ok () ↔ ∀ key value, o.get? key = some value → s.Admits o key value := by
  rw [validate, forM_eq_ok_iff]
  constructor
  · intro h key value hv
    exact checkEntry_eq_ok_iff.1 (h (key, value) (Options.mem_entries.2 hv))
  · rintro h ⟨key, value⟩ hm
    exact checkEntry_eq_ok_iff.2 (h key value (Options.mem_entries.1 hm))

/-- A key that belongs to a setting belongs to no gate. -/
lemma Distinct.gate_ne {s : Schema} (hs : s.Distinct) {key : String} {setting : Setting}
    {outer : List Gate} (hfind : s.find? key = some (.setting setting, outer))
    {p : OptionNode × List Gate} (hp : p ∈ s.placed) {g : Gate} (hg : g ∈ p.2) : g.id ≠ key := by
  intro hid
  obtain ⟨node, gates⟩ := p
  obtain ⟨front, back, rfl⟩ := List.append_of_mem hg
  obtain ⟨hplaced, hkey⟩ := mem_placed_of_find? hfind
  cases hs.eq_of_id_eq (gate_mem_placed hp) hplaced (hid.trans hkey.symm)

/-- A setting outside of all gates may be given any value that passes its check. -/
lemma Distinct.validate_insert {s : Schema} (hs : s.Distinct) {o : Options}
    (hv : s.validate o = .ok ()) {key : String} {setting : Setting} {value : OptionValue}
    (hfind : s.find? key = some (.setting setting, []))
    (hpass : (OptionNode.setting setting).fault? value = none) :
    s.validate (o.insert key value) = .ok () := by
  rw [validate_eq_ok_iff] at hv ⊢
  intro k v hget
  rw [Options.get?_insert] at hget
  split at hget
  · rename_i hk
    subst hk
    obtain rfl := Option.some.inj hget
    exact ⟨.setting setting, [], hfind, hpass, by simp⟩
  · obtain ⟨node, gates, hnode, hfault, hopen⟩ := hv k v hget
    refine ⟨node, gates, hnode, hfault, fun g hg => ?_⟩
    have hne := hs.gate_ne hfind (mem_placed_of_find? hnode).1 hg
    rw [Gate.isOpen, Options.get?_insert, if_neg hne.symm]
    exact hopen g hg

end Schema

end Raster
