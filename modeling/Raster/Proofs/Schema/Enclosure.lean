import Raster.Proofs.Schema.Placement
/-!
# Gates around nodes

A gate encloses the nodes that are written behind it, at whatever depth (`Schema.Encloses`).  Every
gate in front of a placed node encloses the node, and the outer gates enclose the inner ones
(`encloses_iff`, `pairwise_encloses`).  Where no key stands twice, these are all the gates that
enclose the node, and looking its key up finds it together with them (`Distinct.exists_find?`).
-/

namespace Raster

namespace Schema

/-- The gates of the schema, each with the nodes behind it. -/
def gates : Schema → List (Gate × Schema)
  | nil => []
  | header _ rest => gates rest
  | setting _ rest => gates rest
  | gated g inner rest => (g, inner) :: (gates inner ++ gates rest)

/-- A gate of the schema encloses a node that stands behind it. -/
def Encloses (s : Schema) (g : Gate) (node : OptionNode) : Prop :=
  ∃ inner, (g, inner) ∈ s.gates ∧ node ∈ inner.optionNodes

variable {s : Schema} {g : Gate} {node : OptionNode} {chain : List Gate}

lemma encloses_gated {h : Gate} {inner rest : Schema} :
    (gated h inner rest).Encloses g node ↔
      (g = h ∧ node ∈ inner.optionNodes) ∨ inner.Encloses g node ∨ rest.Encloses g node := by
  simp only [Encloses, gates, List.mem_cons, List.mem_append, Prod.mk.injEq]
  constructor
  · rintro ⟨body, ⟨rfl, rfl⟩ | hbody | hbody, hnode⟩
    · exact Or.inl ⟨rfl, hnode⟩
    · exact Or.inr (Or.inl ⟨body, hbody, hnode⟩)
    · exact Or.inr (Or.inr ⟨body, hbody, hnode⟩)
  · rintro (⟨rfl, hnode⟩ | ⟨body, hbody, hnode⟩ | ⟨body, hbody, hnode⟩)
    · exact ⟨inner, Or.inl ⟨rfl, rfl⟩, hnode⟩
    · exact ⟨body, Or.inr (Or.inl hbody), hnode⟩
    · exact ⟨body, Or.inr (Or.inr hbody), hnode⟩

/-- A gate encloses a node exactly if it is among the gates in front of it, in one of the places
where the node stands. -/
lemma encloses_iff : s.Encloses g node ↔ ∃ chain, (node, chain) ∈ s.placed ∧ g ∈ chain := by
  induction s generalizing node with
  | nil => simp [Encloses, gates, placed]
  | header _ rest ih => exact ih
  | setting s rest ih =>
    have hrest : (setting s rest).Encloses g node ↔ rest.Encloses g node := Iff.rfl
    rw [hrest, ih]
    constructor
    · rintro ⟨chain, hp, hg⟩
      exact ⟨chain, List.mem_cons_of_mem _ hp, hg⟩
    · rintro ⟨chain, hp, hg⟩
      rcases List.mem_cons.1 hp with hp | hp
      · -- no gate is in front of a setting that is written outside of all gates
        obtain ⟨-, rfl⟩ := Prod.mk.inj hp
        cases hg
      · exact ⟨chain, hp, hg⟩
  | gated h inner rest ihi ihr =>
    rw [encloses_gated, ihi, ihr, exists_mem_placed]
    simp only [placed, List.mem_cons, List.mem_append, List.mem_map]
    constructor
    · rintro (⟨rfl, chain, hp⟩ | ⟨chain, hp, hg⟩ | ⟨chain, hp, hg⟩)
      · exact ⟨g :: chain, Or.inr (Or.inl ⟨_, hp, rfl⟩), List.mem_cons_self⟩
      · exact ⟨h :: chain, Or.inr (Or.inl ⟨_, hp, rfl⟩), List.mem_cons_of_mem _ hg⟩
      · exact ⟨chain, Or.inr (Or.inr hp), hg⟩
    · rintro ⟨chain, hp | ⟨⟨node', inside⟩, hp, heq⟩ | hp, hg⟩
      · obtain ⟨-, rfl⟩ := Prod.mk.inj hp
        cases hg
      · obtain ⟨rfl, rfl⟩ := Prod.mk.inj heq
        rcases List.mem_cons.1 hg with rfl | hg
        · exact Or.inl ⟨rfl, inside, hp⟩
        · exact Or.inr (Or.inl ⟨inside, hp, hg⟩)
      · exact Or.inr (Or.inr ⟨chain, hp, hg⟩)

/-- Of the gates in front of a node the outer ones enclose the inner ones. -/
lemma pairwise_encloses (hp : (node, chain) ∈ s.placed) :
    chain.Pairwise fun outer inner => s.Encloses outer (.gate inner) := by
  rw [List.pairwise_iff_forall_sublist]
  intro outer inner hsub
  obtain ⟨front, back, rfl, houter, hinner⟩ := List.cons_sublist_iff.1 hsub
  obtain ⟨between, after, rfl⟩ := List.append_of_mem (List.singleton_sublist.1 hinner)
  rw [← List.append_assoc] at hp
  exact encloses_iff.2 ⟨_, gate_mem_placed hp, List.mem_append_left _ houter⟩

namespace Distinct

variable (hs : s.Distinct)

include hs

lemma mem_chain_iff (hp : (node, chain) ∈ s.placed) : g ∈ chain ↔ s.Encloses g node := by
  rw [encloses_iff]
  constructor
  · exact fun hg => ⟨chain, hp, hg⟩
  · rintro ⟨chain', hp', hg⟩
    rw [(Prod.mk.inj (hs.eq_of_id_eq hp hp' rfl)).2]
    exact hg

/-- No gate stands in front of itself. -/
lemma ne_gate (hp : (node, chain) ∈ s.placed) (hg : g ∈ chain) : node ≠ .gate g := by
  rintro rfl
  obtain ⟨outer, inner, rfl⟩ := List.append_of_mem hg
  -- the gate is placed behind the gates before it, and also behind these, itself and the others
  have hplaced := hs.eq_of_id_eq hp (gate_mem_placed hp) rfl
  have hlength := congrArg (fun p => p.2.length) hplaced
  simp at hlength

/-- Looking up the key of a node finds the node and the gates that enclose it, the outermost
first. -/
lemma exists_find? (hnode : node ∈ s.optionNodes) :
    ∃ chain, s.find? node.id = some (node, chain) ∧
      (∀ g, g ∈ chain ↔ s.Encloses g node) ∧
      (chain.Pairwise fun outer inner => s.Encloses outer (.gate inner)) ∧
      ∀ g ∈ chain, node ≠ .gate g := by
  obtain ⟨chain, hp⟩ := exists_mem_placed.1 hnode
  exact ⟨chain, hs.find?_of_mem hp, fun g => hs.mem_chain_iff hp, pairwise_encloses hp,
    fun g hg => hs.ne_gate hp hg⟩

end Distinct

/-- A key is not found exactly if no node has it. -/
lemma find?_eq_none_iff {key : String} :
    s.find? key = none ↔ ∀ node ∈ s.optionNodes, node.id ≠ key := by
  rw [find?_eq_find?_placed, List.find?_eq_none, ← map_fst_placed]
  simp

/-- A gate around a choice, and after it a gate around another gate around a number. -/
def siblingGates : Schema :=
  gated ⟨"plain", "Plain", false, none⟩
    (setting ⟨"mode", "Mode", .choice "slow" ["slow", "fast"], none⟩ nil)
    (gated ⟨"outer", "Outer", true, none⟩
      (gated ⟨"inner", "Inner", false, none⟩
        (setting ⟨"count", "Count", .int 3 (some (0, 9)), none⟩ nil) nil) nil)

end Schema

end Raster
