import Raster.Proofs.Schema.Placement
/-!
# Keys that a schema does not know

A schema looks only at the keys of its nodes.  So filling in the defaults keeps apart two option
maps that differ in one other key, and changes them in the same way (`Options.AgreesOff.finalize`);
and a setting that is put in front of a schema, together with a value for it, leaves the verdict on
all other values as it was (`Distinct.validate_setting_iff`).
-/

namespace Raster

/-- Two option maps give the same value to every key but one. -/
def Options.AgreesOff (key : String) (o o' : Options) : Prop :=
  ∀ k, k ≠ key → o.get? k = o'.get? k

namespace Options.AgreesOff

variable {key : String} {o o' : Options}

lemma insert (o : Options) (key : String) (value : OptionValue) :
    o.AgreesOff key (o.insert key value) := by
  intro k hk
  rw [get?_insert, if_neg hk.symm]

lemma insertNew (h : o.AgreesOff key o') {id : String} (hid : id ≠ key) (value : OptionValue) :
    (o.insertNew id value).AgreesOff key (o'.insertNew id value) := by
  intro k hk
  rw [get?_insertNew, get?_insertNew, h id hid, h k hk]

lemma isOn_eq (h : o.AgreesOff key o') {id : String} (hid : id ≠ key) : o.isOn id = o'.isOn id := by
  rw [isOn, isOn, h id hid]

/-- Filling in the defaults of a schema that does not know the key. -/
lemma finalize {s : Schema} (hs : ∀ node ∈ s.optionNodes, node.id ≠ key)
    (h : o.AgreesOff key o') : (s.finalize o).AgreesOff key (s.finalize o') := by
  induction s generalizing o o' with
  | nil => exact h
  | header _ rest ih => exact ih hs h
  | setting s rest ih =>
    have hs := List.forall_mem_cons.1 hs
    exact ih hs.2 (h.insertNew hs.1 _)
  | gated g inner rest ihi ihr =>
    obtain ⟨hg, hs⟩ := List.forall_mem_cons.1 hs
    change g.id ≠ key at hg
    obtain ⟨hinner, hrest⟩ := List.forall_mem_append.1 hs
    have hgate := h.insertNew hg (.bool g.default)
    refine ihr hrest ?_
    -- both maps enter the gate, or both pass it by
    rw [hgate.isOn_eq hg]
    split
    · exact ihi hinner hgate
    · exact hgate

end Options.AgreesOff

namespace Schema

variable {s : Setting} {rest : Schema} {o : Options} {key : String} {value v : OptionValue}

/-- A value of another key is admitted with a setting in front of the schema exactly if it is
without. -/
lemma Distinct.admits_setting_iff (hs : (setting s rest).Distinct) (hkey : key ≠ s.id) :
    (setting s rest).Admits (o.insert s.id v) key value ↔ rest.Admits o key value := by
  have hfind : (setting s rest).find? key = rest.find? key := if_neg hkey.symm
  have hself : (setting s rest).find? s.id = some (.setting s, []) := if_pos rfl
  have hopen : ∀ node gates, rest.find? key = some (node, gates) →
      ∀ g ∈ gates, g.isOpen (o.insert s.id v) = g.isOpen o := by
    intro node gates hnode g hg
    have hplaced := List.mem_cons_of_mem (OptionNode.setting s, []) (mem_placed_of_find? hnode).1
    have hne := hs.gate_ne hself hplaced hg
    rw [Gate.isOpen, Gate.isOpen, Options.get?_insert, if_neg hne.symm]
  unfold Admits
  rw [hfind]
  constructor
  · rintro ⟨node, gates, hnode, hfault, hall⟩
    exact ⟨node, gates, hnode, hfault, fun g hg => hopen node gates hnode g hg ▸ hall g hg⟩
  · rintro ⟨node, gates, hnode, hfault, hall⟩
    exact ⟨node, gates, hnode, hfault, fun g hg => (hopen node gates hnode g hg).trans (hall g hg)⟩

/-- With a value for the setting in front, an option map is valid exactly if this value passes its
check and the map is valid without it. -/
lemma Distinct.validate_setting_iff (hs : (setting s rest).Distinct) (ho : o.get? s.id = none) :
    (setting s rest).validate (o.insert s.id v) = .ok () ↔
      (OptionNode.setting s).fault? v = none ∧ rest.validate o = .ok () := by
  have hself : (setting s rest).find? s.id = some (.setting s, []) := if_pos rfl
  rw [validate_eq_ok_iff, validate_eq_ok_iff]
  constructor
  · intro h
    constructor
    · obtain ⟨node, gates, hnode, hfault, -⟩ := h s.id v (by simp)
      rw [hself] at hnode
      cases hnode
      exact hfault
    · intro key value hget
      have hkey : key ≠ s.id := by
        rintro rfl
        rw [ho] at hget
        cases hget
      refine (hs.admits_setting_iff hkey).1 (h key value ?_)
      rw [Options.get?_insert, if_neg hkey.symm, hget]
  · rintro ⟨hfault, h⟩ key value hget
    rw [Options.get?_insert] at hget
    split at hget
    · rename_i hkey
      subst hkey
      obtain rfl := Option.some.inj hget
      exact ⟨.setting s, [], hself, hfault, by simp⟩
    · rename_i hkey
      exact (hs.admits_setting_iff (Ne.symm hkey)).2 (h key value hget)

end Schema

end Raster
