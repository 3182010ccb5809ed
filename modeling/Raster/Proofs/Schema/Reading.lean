import Raster.Proofs.Schema.Finalize
/-!
# Reading what a schema has accepted

Once the defaults are filled into an option map that the schema accepts, every node whose gates
are on has a value that passes its check (`WellFormed.exists_value`).  So the typed getters do
not fail there: for each kind of setting one lemma says what its getter returns.
-/

namespace Raster

namespace Schema

section

variable {s : Schema} {o : Options} (hs : s.WellFormed) (hv : s.validate o = .ok ())

include hs hv

/-- Every node whose gates are on has a value that passes its check. -/
lemma WellFormed.exists_value (key : String) {node : OptionNode} {gates : List Gate}
    (hf : s.find? key = some (node, gates))
    (hon : ∀ g ∈ gates, (s.finalize o).isOn g.id = true) :
    ∃ value, (s.finalize o).get? key = some value ∧ node.fault? value = none := by
  obtain ⟨hp, hid⟩ := mem_placed_of_find? hf
  obtain ⟨value, hvalue⟩ := exists_get?_finalize s hp (Options.ExtendedBy.refl _) hon
  rw [show node.id = key from hid] at hvalue
  obtain ⟨node', gates', hf', hfault, -⟩ :=
    hs.admits_finalize (validate_eq_ok_iff.1 hv) hvalue
  obtain ⟨rfl, rfl⟩ := Prod.mk.inj (Option.some.inj (hf.symm.trans hf'))
  exact ⟨value, hvalue, hfault⟩

variable (key : String) {id name : String} {help : Option String}

lemma WellFormed.exists_gate {g : Gate} (hf : s.find? key = some (.gate g, [])) :
    ∃ b, (s.finalize o).get? key = some (.bool b) := by
  obtain ⟨value, hvalue, hfault⟩ := hs.exists_value hv key hf (by simp)
  cases value with
  | bool b => exact ⟨b, hvalue⟩
  | _ => simp [OptionNode.fault?] at hfault

lemma WellFormed.exists_bool {d : Bool}
    (hf : s.find? key = some (.setting ⟨id, name, .checkbox d, help⟩, [])) :
    ∃ b, (s.finalize o).bool key = .ok b := by
  obtain ⟨value, hvalue, hfault⟩ := hs.exists_value hv key hf (by simp)
  cases value with
  | bool b => exact ⟨b, Options.bool_eq_ok hvalue⟩
  | _ => simp [OptionNode.fault?, OptionNode.settingFault?] at hfault

lemma WellFormed.exists_int {d lo hi : Int32} {gates : List Gate}
    (hf : s.find? key = some (.setting ⟨id, name, .int d (some (lo, hi)), help⟩, gates))
    (hon : ∀ g ∈ gates, (s.finalize o).isOn g.id = true) :
    ∃ n : Int32, (s.finalize o).get? key = some (.int n) ∧ lo.toInt ≤ n.toInt ∧
      n.toInt ≤ hi.toInt := by
  obtain ⟨value, hvalue, hfault⟩ := hs.exists_value hv key hf hon
  cases value with
  | int n =>
    have hrange : ¬(n < lo ∨ hi < n) := by
      simpa [OptionNode.fault?, OptionNode.settingFault?, OptionNode.intFault?] using hfault
    rw [not_or, Int32.not_lt, Int32.not_lt, Int32.le_iff_toInt_le, Int32.le_iff_toInt_le] at hrange
    exact ⟨n, hvalue, hrange⟩
  | _ => simp [OptionNode.fault?, OptionNode.settingFault?] at hfault

/-- A setting with the range of a byte is read as a byte. -/
lemma WellFormed.exists_byte {d : Int32}
    (hf : s.find? key = some (.setting ⟨id, name, .int d (some (0, 255)), help⟩, [])) :
    ∃ b, (s.finalize o).byte key = .ok b := by
  obtain ⟨n, hvalue, hrange⟩ := hs.exists_int hv key hf (by simp)
  refine ⟨BitVec.ofNat 8 n.toInt.toNat, ?_⟩
  rw [Options.byte, Options.int_eq_ok hvalue]
  exact if_pos hrange

lemma WellFormed.exists_double {d lo hi : Float}
    (hf : s.find? key = some (.setting ⟨id, name, .double d (some (lo, hi)), help⟩, [])) :
    ∃ x, (s.finalize o).double key = .ok x ∧ ¬x < lo ∧ ¬hi < x := by
  obtain ⟨value, hvalue, hfault⟩ := hs.exists_value hv key hf (by simp)
  cases value with
  | int n =>
    refine ⟨intDouble n.toInt, Options.double_eq_ok hvalue rfl, ?_⟩
    simpa [OptionNode.fault?, OptionNode.settingFault?, OptionNode.doubleFault?] using hfault
  | double x =>
    refine ⟨x, Options.double_eq_ok hvalue rfl, ?_⟩
    simpa [OptionNode.fault?, OptionNode.settingFault?, OptionNode.doubleFault?] using hfault
  | _ => simp [OptionNode.fault?, OptionNode.settingFault?] at hfault

lemma WellFormed.exists_text {d : String} {range : Option (UInt64 × UInt64)}
    (hf : s.find? key = some (.setting ⟨id, name, .text d range, help⟩, [])) :
    ∃ t, (s.finalize o).text key = .ok t := by
  obtain ⟨value, hvalue, hfault⟩ := hs.exists_value hv key hf (by simp)
  cases value with
  | text t => exact ⟨t, Options.text_eq_ok hvalue⟩
  | _ => simp [OptionNode.fault?, OptionNode.settingFault?] at hfault

lemma WellFormed.exists_choice {d : String} {values : List String}
    (hf : s.find? key = some (.setting ⟨id, name, .choice d values, help⟩, [])) :
    ∃ t ∈ values, (s.finalize o).text key = .ok t := by
  obtain ⟨value, hvalue, hfault⟩ := hs.exists_value hv key hf (by simp)
  cases value with
  | text t =>
    refine ⟨t, ?_, Options.text_eq_ok hvalue⟩
    simpa [OptionNode.fault?, OptionNode.settingFault?] using hfault
  | _ => simp [OptionNode.fault?, OptionNode.settingFault?] at hfault

end

end Schema

end Raster
