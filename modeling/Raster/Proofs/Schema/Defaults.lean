import Raster.Proofs.Schema.Enclosure
import Raster.Proofs.Schema.Finalize
/-!
# Which defaults are filled in

A key that had no value has one in the filled-in map exactly if it belongs to a node that can be
reached there: every gate that encloses the node is on in the filled-in map.  The value is the
default of the node (`Distinct.get?_finalize_iff`).

A second pass enters the gates that the first one entered, since a gate keeps the value that it had
when it was reached, and finds a value at every node behind them.  So it changes nothing, also where
a key stands in the schema twice (`finalize_eq_self`).
-/

namespace Raster

lemma Options.insertNew_eq_self {o : Options} {key : String} {v : OptionValue}
    (h : o.get? key = some v) (value : OptionValue) : o.insertNew key value = o := by
  have hcontains : o.contains key = true := by simp [contains, h]
  exact if_pos hcontains

namespace Schema

/-- Filling in the defaults changes nothing in a map that has every value of a filled-in one. -/
lemma finalize_eq_self (s : Schema) {o o' : Options} (h : (s.finalize o).ExtendedBy o') :
    s.finalize o' = o' := by
  induction s generalizing o with
  | nil => rfl
  | header _ rest ih => exact ih h
  | setting s rest ih =>
    have hself := Options.get?_insertNew_self o s.id (OptionNode.setting s).default
    have hvalue := h _ _ (finalize_extends rest _ _ _ hself)
    rw [finalize, Options.insertNew_eq_self hvalue]
    exact ih h
  | gated g inner rest ihi ihr =>
    rw [finalize_gated] at h ⊢
    have hself := Options.get?_insertNew_self o g.id (.bool g.default)
    have hpass := insertNew_extendedBy_pass g (finalize_extends inner) o
    have hrest := finalize_extends rest (pass g inner o)
    have hreached := (hpass.trans hrest).trans h
    have hkeep : o'.insertNew g.id (.bool g.default) = o' :=
      Options.insertNew_eq_self (hreached _ _ hself) _
    have hbehind : pass g inner o' = o' := by
      by_cases hg : o'.isOn g.id = true
      · -- the gate was on when it was reached, so the nodes behind it have been filled in
        have hon := hreached.isOn_of_some hself hg
        rw [pass_of_isOn inner hon] at hrest h
        rw [pass_of_isOn inner (by rwa [hkeep]), hkeep]
        exact ihi (hrest.trans h)
      · rw [pass_of_not_isOn inner (by rwa [hkeep]), hkeep]
    rw [hbehind]
    exact ihr h

lemma Distinct.get?_finalize_iff {s : Schema} (hs : s.Distinct) {o : Options} {key : String}
    (hkey : o.get? key = none) (value : OptionValue) :
    (s.finalize o).get? key = some value ↔
      ∃ node ∈ s.optionNodes, node.id = key ∧ node.default = value ∧
        ∀ g, s.Encloses g node → (s.finalize o).get? g.id = some (.bool true) := by
  constructor
  · intro h
    rcases get?_of_finalize s h with hold | ⟨⟨node, chain⟩, hp, hid, hdefault, hon⟩
    · rw [hkey] at hold
      cases hold
    · refine ⟨node, exists_mem_placed.2 ⟨chain, hp⟩, hid, hdefault, fun g hg => ?_⟩
      exact Options.isOn_iff.1 (hon g ((hs.mem_chain_iff hp).2 hg))
  · rintro ⟨node, hnode, rfl, rfl, hgates⟩
    obtain ⟨chain, hp⟩ := exists_mem_placed.1 hnode
    have hon : ∀ g ∈ chain, (s.finalize o).isOn g.id = true := fun g hg =>
      Options.isOn_iff.2 (hgates g ((hs.mem_chain_iff hp).1 hg))
    obtain ⟨value, hvalue⟩ := exists_get?_finalize s hp (.refl _) hon
    rcases get?_of_finalize s hvalue with hold | ⟨q, hq, hid, rfl, -⟩
    · rw [hkey] at hold
      cases hold
    · rw [hvalue, hs.eq_of_id_eq hq hp hid]

/-- **Exactly the defaults that can be reached are filled in, once and for all.**  Filling in the
defaults keeps every value.  In a schema without repeated keys, a key that had no value has one
afterwards exactly if it belongs to a node all of whose gates are on then, and this value is the
default of the node.  Filling in the defaults again changes nothing, whatever the schema is. -/
theorem finalize_adds_reachable (s : Schema) (o : Options) :
    (∀ key value, o.get? key = some value → (s.finalize o).get? key = some value) ∧
    (s.Distinct → ∀ key, o.get? key = none → ∀ value,
      (s.finalize o).get? key = some value ↔
        ∃ node ∈ s.optionNodes, node.id = key ∧ node.default = value ∧
          ∀ g, s.Encloses g node → (s.finalize o).get? g.id = some (.bool true)) ∧
    s.finalize (s.finalize o) = s.finalize o :=
  ⟨finalize_extends s o, fun hs _ hkey value => hs.get?_finalize_iff hkey value,
    finalize_eq_self s (.refl _)⟩

/-- A number behind two gates, the inner one of which is off by default: it is filled in where the
inner gate is on, and not where that has a text as its value. -/
theorem siblingGates_adds_reachable :
    let on := siblingGates.finalize (.ofList [("inner", .bool true)])
    let wrong := siblingGates.finalize (.ofList [("inner", .text "true")])
    siblingGates.Distinct ∧
      (∃ node ∈ siblingGates.optionNodes, node.id = "count" ∧ node.default = .int 3 ∧
        ∀ g, siblingGates.Encloses g node → on.get? g.id = some (.bool true)) ∧
      (¬∃ node ∈ siblingGates.optionNodes, node.id = "count" ∧ node.default = .int 3 ∧
        ∀ g, siblingGates.Encloses g node → wrong.get? g.id = some (.bool true)) ∧
      siblingGates.finalize on = on := by
  intro on wrong
  have hdistinct : siblingGates.Distinct := by decide
  obtain ⟨-, hon, hagain⟩ :=
    finalize_adds_reachable siblingGates (.ofList [("inner", .bool true)])
  obtain ⟨-, hwrong, -⟩ :=
    finalize_adds_reachable siblingGates (.ofList [("inner", .text "true")])
  refine ⟨hdistinct, (hon hdistinct "count" rfl (.int 3)).1 rfl, ?_, hagain⟩
  intro h
  cases (hwrong hdistinct "count" rfl (.int 3)).2 h

end Schema

end Raster
