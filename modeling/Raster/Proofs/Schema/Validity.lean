import Raster.Proofs.Schema.Enclosure
/-!
# Valid option maps

Which values a node takes is said by `OptionNode.Takes`, without the check: values of its kind and
inside its range, texts of an allowed length, listed choices; integers count as doubles.  An option
map is valid exactly if every value in it belongs to a node of the schema that takes it and is
enclosed by open gates only (`validate_documented`).  This says nothing of the order of the entries,
so the order does not matter.
-/

namespace Raster

/-- A value is one that a node may have.  A range excludes what compares below its lower bound or
above its upper one. -/
inductive OptionNode.Takes : OptionNode → OptionValue → Prop
  | int {id name default range help} {v : Int32}
      (hrange : ∀ bounds ∈ range, bounds.1 ≤ v ∧ v ≤ bounds.2) :
      Takes (.setting ⟨id, name, .int default range, help⟩) (.int v)
  | double {id name default range help} {v : Float}
      (hrange : ∀ bounds ∈ range, ¬v < bounds.1 ∧ ¬bounds.2 < v) :
      Takes (.setting ⟨id, name, .double default range, help⟩) (.double v)
  | intAsDouble {id name default range help} {v : Int32}
      (hrange : ∀ bounds ∈ range, ¬intDouble v.toInt < bounds.1 ∧ ¬bounds.2 < intDouble v.toInt) :
      Takes (.setting ⟨id, name, .double default range, help⟩) (.int v)
  | text {id name default range help} {v : String}
      (hlength : ∀ bounds ∈ range, bounds.1.toNat ≤ v.length ∧ v.length ≤ bounds.2.toNat) :
      Takes (.setting ⟨id, name, .text default range, help⟩) (.text v)
  | choice {id name default values help} {v : String} (hmem : v ∈ values) :
      Takes (.setting ⟨id, name, .choice default values, help⟩) (.text v)
  | checkbox {id name default help} {v : Bool} :
      Takes (.setting ⟨id, name, .checkbox default, help⟩) (.bool v)
  | gate {g : Gate} {v : Bool} : Takes (.gate g) (.bool v)

namespace OptionNode

lemma intFault?_eq_none_iff {v : Int32} {range : Option (Int32 × Int32)} :
    intFault? v range = none ↔ ∀ bounds ∈ range, bounds.1 ≤ v ∧ v ≤ bounds.2 := by
  cases range with
  | none => simp [intFault?]
  | some bounds => simp [intFault?, Int32.not_lt]

lemma doubleFault?_eq_none_iff {v : Float} {range : Option (Float × Float)} :
    doubleFault? v range = none ↔ ∀ bounds ∈ range, ¬v < bounds.1 ∧ ¬bounds.2 < v := by
  cases range with
  | none => simp [doubleFault?]
  | some bounds => simp [doubleFault?]

lemma lengthFault?_eq_none_iff {n : Nat} {range : Option (UInt64 × UInt64)} :
    lengthFault? n range = none ↔
      ∀ bounds ∈ range, bounds.1.toNat ≤ n ∧ n ≤ bounds.2.toNat := by
  cases range with
  | none => simp [lengthFault?]
  | some bounds => simp [lengthFault?]

/-- The check of a node finds nothing wrong with exactly the values that the node takes. -/
lemma fault?_eq_none_iff {node : OptionNode} {value : OptionValue} :
    node.fault? value = none ↔ node.Takes value := by
  constructor
  · intro h
    cases node with
    | setting s =>
      obtain ⟨id, name, kind, help⟩ := s
      cases kind with
      | int =>
        cases value with
        | int => exact .int (intFault?_eq_none_iff.1 h)
        | bool | double | text => cases h
      | double =>
        cases value with
        | int => exact .intAsDouble (doubleFault?_eq_none_iff.1 h)
        | double => exact .double (doubleFault?_eq_none_iff.1 h)
        | bool | text => cases h
      | text =>
        cases value with
        | text => exact .text (lengthFault?_eq_none_iff.1 h)
        | bool | int | double => cases h
      | choice _ values =>
        cases value with
        | text v => exact .choice (by simpa [fault?, settingFault?] using h)
        | bool | int | double => cases h
      | checkbox =>
        cases value with
        | bool => exact .checkbox
        | int | double | text => cases h
    | gate =>
      cases value with
      | bool => exact .gate
      | int | double | text => cases h
  · intro h
    cases h with
    | int hrange => exact intFault?_eq_none_iff.2 hrange
    | double hrange | intAsDouble hrange => exact doubleFault?_eq_none_iff.2 hrange
    | text hlength => exact lengthFault?_eq_none_iff.2 hlength
    | choice hmem => exact if_pos hmem
    | checkbox | gate => rfl

end OptionNode

namespace Schema

variable {s : Schema} {o o' : Options}

/-- The key belongs to a node of the schema that takes the value, and every gate that encloses the
node is on in the option map, or is on by default and not in the map. -/
def PermitsEntry (s : Schema) (o : Options) (key : String) (value : OptionValue) : Prop :=
  ∃ node ∈ s.optionNodes, node.id = key ∧ node.Takes value ∧
    ∀ g, s.Encloses g node →
      o.get? g.id = some (.bool true) ∨ (o.get? g.id = none ∧ g.default = true)

/-- Every entry of the option map is permitted. -/
def Permits (s : Schema) (o : Options) : Prop :=
  ∀ key value, (key, value) ∈ o.entries → s.PermitsEntry o key value

lemma Distinct.admits_iff (hs : s.Distinct) {key : String} {value : OptionValue} :
    s.Admits o key value ↔ s.PermitsEntry o key value := by
  constructor
  · rintro ⟨node, chain, hfind, hfault, hopen⟩
    obtain ⟨hp, hid⟩ := mem_placed_of_find? hfind
    refine ⟨node, exists_mem_placed.2 ⟨chain, hp⟩, hid, OptionNode.fault?_eq_none_iff.1 hfault, ?_⟩
    intro g hg
    exact Gate.isOpen_iff.1 (hopen g ((hs.mem_chain_iff hp).2 hg))
  · rintro ⟨node, hnode, rfl, htakes, hgates⟩
    obtain ⟨chain, hfind, hchain, -, -⟩ := hs.exists_find? hnode
    refine ⟨node, chain, hfind, OptionNode.fault?_eq_none_iff.2 htakes, ?_⟩
    intro g hg
    exact Gate.isOpen_iff.2 (hgates g ((hchain g).1 hg))

lemma Distinct.validate_iff (hs : s.Distinct) : s.validate o = .ok () ↔ s.Permits o := by
  rw [validate_eq_ok_iff]
  constructor
  · intro h key value hentry
    exact hs.admits_iff.1 (h key value (Options.mem_entries.1 hentry))
  · intro h key value hvalue
    exact hs.admits_iff.2 (h key value (Options.mem_entries.2 hvalue))

lemma permits_of_perm (hperm : o'.entries.Perm o.entries) (h : s.Permits o) : s.Permits o' := by
  intro key value hentry
  obtain ⟨node, hnode, hid, htakes, hgates⟩ := h key value (hperm.mem_iff.1 hentry)
  refine ⟨node, hnode, hid, htakes, fun g hg => ?_⟩
  rw [Options.get?_of_perm hperm]
  exact hgates g hg

/-- **Exactly the documented option maps are valid.**  In a schema without repeated keys a map
is valid exactly if the schema permits all its entries, in whatever order these are gone through.
A node is found under its key, together with exactly the gates that enclose it, the outermost
first, and not with itself; no other key is found. -/
theorem validate_documented (s : Schema) (hs : s.Distinct) (o : Options) :
    (s.validate o = .ok () ↔ s.Permits o) ∧
    (∀ o' : Options, o'.entries.Perm o.entries →
      (s.validate o' = .ok () ↔ s.validate o = .ok ())) ∧
    (∀ node ∈ s.optionNodes, ∃ chain, s.find? node.id = some (node, chain) ∧
      (∀ g, g ∈ chain ↔ s.Encloses g node) ∧
      (chain.Pairwise fun outer inner => s.Encloses outer (.gate inner)) ∧
      ∀ g ∈ chain, node ≠ .gate g) ∧
    ∀ key, s.find? key = none ↔ ∀ node ∈ s.optionNodes, node.id ≠ key := by
  refine ⟨hs.validate_iff, fun o' hperm => ?_, fun node hnode => hs.exists_find? hnode,
    fun key => find?_eq_none_iff⟩
  rw [hs.validate_iff, hs.validate_iff]
  exact ⟨permits_of_perm hperm.symm, permits_of_perm hperm⟩

/-- A number behind two gates needs the inner one, which is off by default, and not the outer one;
the gate before these has no part in it. -/
theorem siblingGates_documented :
    siblingGates.Distinct ∧
      siblingGates.Permits (.ofList [("count", .int 9), ("inner", .bool true)]) ∧
      ¬siblingGates.Permits (.ofList [("count", .int 9)]) ∧
      ∃ node outer inner, siblingGates.find? "count" = some (node, [outer, inner]) ∧
        outer.id = "outer" ∧ inner.id = "inner" ∧
        ∀ g, g ∈ [outer, inner] ↔ siblingGates.Encloses g node := by
  have hdistinct : siblingGates.Distinct := by decide
  obtain ⟨hopen, -, hfind, -⟩ := validate_documented siblingGates hdistinct
    (.ofList [("count", .int 9), ("inner", .bool true)])
  obtain ⟨hclosed, -, -, -⟩ := validate_documented siblingGates hdistinct
    (.ofList [("count", .int 9)])
  have hrefused : ¬siblingGates.Permits (.ofList [("count", .int 9)]) := by
    intro h
    cases hclosed.2 h
  refine ⟨hdistinct, hopen.1 rfl, hrefused, ?_⟩
  obtain ⟨chain, hcount, hchain, -, -⟩ :=
    hfind (.setting ⟨"count", "Count", .int 3 (some (0, 9)), none⟩)
      (by simp [siblingGates, optionNodes])
  obtain rfl : [⟨"outer", "Outer", true, none⟩, ⟨"inner", "Inner", false, none⟩] = chain :=
    congrArg Prod.snd (Option.some.inj hcount)
  exact ⟨_, _, _, hcount, rfl, rfl, hchain⟩

end Schema

end Raster
