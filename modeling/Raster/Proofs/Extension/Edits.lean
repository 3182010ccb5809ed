import Raster.Extension.Edit
import Raster.Proofs.Extension.Table
/-!
# Registers of suffixes

The suffixes and the suffix patterns of a matcher are two registers of one kind: tables in which
every format has a list that is not empty and holds no name twice.  Each edit keeps both of them
so (`Matcher.WellFormed.edit`), hence every run does (`Matcher.WellFormed.run`).  What is
registered and then removed leaves no trace (`Matcher.WellFormed.remove_register`).
-/

namespace Raster

namespace Table

variable {α : Type} {name : α → String} {Sound : α → Prop} {t : Table (List α)}
  {key k text : String} {list : List α} {item : α}

/-! ## The names in a list -/

/-- The names of the items in the list of a key. -/
def namesOf (name : α → String) (key : String) (t : Table (List α)) : List String :=
  (listOf key t).map name

lemma listOf_put (key k : String) (list : List α) (t : Table (List α)) :
    listOf k (put key list t) = if key = k then list else listOf k t := by
  rw [listOf, get?_put]
  split <;> rfl

lemma listOf_remove (key k : String) (t : Table (List α)) :
    listOf k (remove key t) = if key = k then [] else listOf k t := by
  rw [listOf, get?_remove]
  split <;> rfl

lemma listOf_of_get? (h : get? key t = some list) : listOf key t = list := by
  rw [listOf, h]
  rfl

/-- The names that are kept are the others. -/
lemma listOf_takeFrom (name : α → String) (key k text : String) (t : Table (List α)) :
    listOf k (takeFrom name key text t) =
      if key = k then (listOf k t).filter fun x => name x ≠ text else listOf k t := by
  rw [takeFrom]
  cases hget : get? key t with
  | none =>
    by_cases hk : key = k
    · subst hk
      simp [listOf, hget]
    · rw [if_neg hk]
  | some list =>
    by_cases hempty : (list.filter fun x => name x ≠ text).isEmpty = true
    · simp only [if_pos hempty, listOf_remove]
      by_cases hk : key = k
      · subst hk
        rw [if_pos rfl, if_pos rfl, listOf_of_get? hget, List.isEmpty_iff.1 hempty]
      · rw [if_neg hk, if_neg hk]
    · simp only [if_neg hempty, listOf_put]
      by_cases hk : key = k
      · subst hk
        rw [if_pos rfl, if_pos rfl, listOf_of_get? hget]
      · rw [if_neg hk, if_neg hk]

/-- Whether an item of some name is in a list. -/
lemma any_name_iff : (listOf key t).any (fun x => name x = text) = true ↔
    text ∈ namesOf name key t := by
  simp [namesOf]

lemma addTo_of_mem (hmem : name item ∈ namesOf name key t) :
    addTo name key item t = put key (listOf key t) t := by
  rw [addTo]
  exact congrArg (fun list => put key list t) (if_pos (any_name_iff.2 hmem))

lemma addTo_of_not_mem (hnew : name item ∉ namesOf name key t) :
    addTo name key item t = put key (listOf key t ++ [item]) t := by
  rw [addTo]
  exact congrArg (fun list => put key list t) (if_neg fun hany => hnew (any_name_iff.1 hany))

/-- A name that is added comes to those that are there. -/
lemma mem_namesOf_addTo :
    text ∈ namesOf name k (addTo name key item t) ↔
      key = k ∧ name item = text ∨ text ∈ namesOf name k t := by
  by_cases hmem : name item ∈ namesOf name key t
  · rw [addTo_of_mem hmem, namesOf, listOf_put]
    by_cases hk : key = k
    · subst hk
      rw [if_pos rfl]
      refine ⟨Or.inr, ?_⟩
      rintro (⟨-, rfl⟩ | h)
      · exact hmem
      · exact h
    · rw [if_neg hk]
      simp [hk, namesOf]
  · rw [addTo_of_not_mem hmem, namesOf, listOf_put]
    by_cases hk : key = k
    · subst hk
      rw [if_pos rfl, List.map_append, List.mem_append, List.map_singleton, List.mem_singleton,
        or_comm]
      simp [namesOf, eq_comm]
    · rw [if_neg hk]
      simp [hk, namesOf]

lemma mem_namesOf_takeFrom {text' : String} :
    text' ∈ namesOf name k (takeFrom name key text t) ↔
      text' ∈ namesOf name k t ∧ ¬(key = k ∧ text = text') := by
  rw [namesOf, listOf_takeFrom]
  by_cases hk : key = k
  · subst hk
    simp only [if_true, namesOf, List.mem_map, List.mem_filter, decide_eq_true_eq, true_and]
    constructor
    · rintro ⟨x, ⟨hx, hne⟩, rfl⟩
      exact ⟨⟨x, hx, rfl⟩, fun h => hne h.symm⟩
    · rintro ⟨⟨x, hx, rfl⟩, hne⟩
      exact ⟨x, ⟨hx, fun h => hne h.symm⟩, rfl⟩
  · rw [if_neg hk]
    simp [hk, namesOf]

lemma mem_namesOf_remove :
    text ∈ namesOf name k (remove key t) ↔ text ∈ namesOf name k t ∧ key ≠ k := by
  rw [namesOf, listOf_remove]
  by_cases hk : key = k
  · simp [hk]
  · simp [hk, namesOf]

/-! ## Registers -/

/-- A table of lists, none of them empty, whose items are sound and told apart by their names. -/
structure IsRegister (name : α → String) (Sound : α → Prop) (t : Table (List α)) : Prop where
  sorted : t.IsSorted
  ne_nil : ∀ e ∈ t, e.2 ≠ []
  nodup : ∀ e ∈ t, (e.2.map name).Nodup
  sound : ∀ e ∈ t, ∀ x ∈ e.2, Sound x

namespace IsRegister

lemma empty : IsRegister name Sound ([] : Table (List α)) :=
  ⟨IsSorted.nil, fun _ hmem => (nomatch hmem), fun _ hmem => (nomatch hmem),
    fun _ hmem => (nomatch hmem)⟩

lemma put (h : IsRegister name Sound t) (hne : list ≠ []) (hnodup : (list.map name).Nodup)
    (hsound : ∀ x ∈ list, Sound x) : IsRegister name Sound (put key list t) := by
  have hsorted : (Table.put key list t).IsSorted := h.sorted.put
  -- an entry is the new one or was there before
  have hmem : ∀ e ∈ Table.put key list t, e.2 = list ∨ e ∈ t := by
    rintro ⟨k, l⟩ hentry
    have hget := hsorted.get?_eq_some_iff.2 hentry
    rw [get?_put] at hget
    by_cases hk : key = k
    · rw [if_pos hk] at hget
      exact Or.inl (Option.some.inj hget).symm
    · rw [if_neg hk] at hget
      exact Or.inr (mem_of_get? hget)
  refine ⟨hsorted, fun e hentry => ?_, fun e hentry => ?_, fun e hentry => ?_⟩
  · rcases hmem e hentry with heq | hold
    · rw [heq]
      exact hne
    · exact h.ne_nil e hold
  · rcases hmem e hentry with heq | hold
    · rw [heq]
      exact hnodup
    · exact h.nodup e hold
  · rcases hmem e hentry with heq | hold
    · rw [heq]
      exact hsound
    · exact h.sound e hold

lemma remove (h : IsRegister name Sound t) : IsRegister name Sound (remove key t) :=
  have hold : ∀ e ∈ Table.remove key t, e ∈ t := fun _ hentry => (List.mem_filter.1 hentry).1
  ⟨h.sorted.remove, fun e hentry => h.ne_nil e (hold e hentry),
    fun e hentry => h.nodup e (hold e hentry), fun e hentry => h.sound e (hold e hentry)⟩

lemma nodup_namesOf (h : IsRegister name Sound t) (key : String) : (namesOf name key t).Nodup := by
  cases hget : get? key t with
  | none => simp [namesOf, listOf, hget]
  | some list =>
    rw [namesOf, listOf_of_get? hget]
    exact h.nodup _ (mem_of_get? hget)

lemma sound_of_mem (h : IsRegister name Sound t) {x : α} (hx : x ∈ listOf key t) : Sound x := by
  cases hget : get? key t with
  | none =>
    rw [listOf, hget] at hx
    cases hx
  | some list =>
    rw [listOf_of_get? hget] at hx
    exact h.sound _ (mem_of_get? hget) x hx

/-- The keys in a register are those that have something in it. -/
lemma mem_keys_iff (h : IsRegister name Sound t) :
    key ∈ keys t ↔ ∃ text, text ∈ namesOf name key t := by
  have hkey : key ∈ keys t ↔ ∃ list, get? key t = some list := by
    rw [keys, List.mem_map]
    constructor
    · rintro ⟨⟨k, list⟩, hentry, rfl⟩
      exact ⟨list, h.sorted.get?_eq_some_iff.2 hentry⟩
    · rintro ⟨list, hget⟩
      exact ⟨_, mem_of_get? hget, rfl⟩
  rw [hkey, namesOf]
  cases hget : get? key t with
  | none => simp [listOf, hget]
  | some list =>
    obtain ⟨x, hx⟩ := List.exists_mem_of_ne_nil _ (h.ne_nil _ (mem_of_get? hget))
    rw [listOf_of_get? hget]
    exact iff_of_true ⟨list, rfl⟩ ⟨name x, List.mem_map_of_mem hx⟩

lemma addTo (h : IsRegister name Sound t) (hsound : Sound item) :
    IsRegister name Sound (addTo name key item t) := by
  by_cases hmem : name item ∈ namesOf name key t
  · rw [addTo_of_mem hmem]
    refine h.put ?_ (h.nodup_namesOf key) fun _ => h.sound_of_mem
    rintro hnil
    rw [namesOf, hnil] at hmem
    cases hmem
  · rw [addTo_of_not_mem hmem]
    refine h.put (by simp) ?_ fun x hx => ?_
    · rw [List.map_append, List.nodup_append]
      refine ⟨h.nodup_namesOf key, List.nodup_singleton _, fun a ha b hb => ?_⟩
      rw [List.map_singleton, List.mem_singleton] at hb
      rw [hb]
      exact ne_of_mem_of_not_mem ha hmem
    · rcases List.mem_append.1 hx with hold | hx
      · exact h.sound_of_mem hold
      · rw [List.mem_singleton.1 hx]
        exact hsound

lemma takeFrom (h : IsRegister name Sound t) :
    IsRegister name Sound (takeFrom name key text t) := by
  rw [Table.takeFrom]
  cases hget : get? key t with
  | none => exact h
  | some list =>
    have hentry := mem_of_get? hget
    by_cases hempty : (list.filter fun x => name x ≠ text).isEmpty = true
    · simp only [if_pos hempty]
      exact h.remove
    · simp only [if_neg hempty]
      refine h.put (fun hnil => hempty (List.isEmpty_iff.2 hnil)) ?_ fun x hx => ?_
      · exact List.Nodup.sublist (List.filter_sublist.map _) (h.nodup _ hentry)
      · exact h.sound _ hentry x (List.mem_filter.1 hx).1

/-- An item that is added and taken out again leaves the table that was there. -/
lemma takeFrom_addTo (h : IsRegister name Sound t) (hnew : name item ∉ namesOf name key t) :
    Table.takeFrom name key (name item) (Table.addTo name key item t) = t := by
  have hkept : (listOf key t ++ [item]).filter (fun x => name x ≠ name item) = listOf key t := by
    have hall : ∀ x ∈ listOf key t, decide (name x ≠ name item) = true := by
      intro x hx
      exact decide_eq_true (ne_of_mem_of_not_mem (List.mem_map_of_mem hx) hnew)
    rw [List.filter_append, List.filter_eq_self.2 hall]
    simp
  have hget : get? key (Table.put key (listOf key t ++ [item]) t) =
      some (listOf key t ++ [item]) := by
    rw [get?_put, if_pos rfl]
  rw [addTo_of_not_mem hnew, Table.takeFrom, hget]
  simp only [hkept]
  -- the entry of the key goes, or it gets the old list back
  cases hold : get? key t with
  | none =>
    have hempty : (listOf key t).isEmpty = true := by simp [listOf, hold]
    rw [if_pos hempty]
    exact h.sorted.remove_put hold
  | some list =>
    have hne := h.ne_nil _ (mem_of_get? hold)
    rw [listOf_of_get? hold, if_neg (by simpa using hne)]
    exact h.sorted.put_put_of_get? hold

end IsRegister

end Table

namespace Matcher

open Table

variable {m : Matcher} {format : String} {suffix : SuffixConfig}

/-! ## What is registered -/

/-- Whether a suffix or a suffix pattern is registered for a format. -/
def Lists (m : Matcher) (format : String) (suffix : SuffixConfig) : Prop :=
  if suffix.isPattern then suffix.text ∈ namesOf SuffixPattern.source format m.patterns
  else suffix.text ∈ namesOf id format m.suffixes

lemma lists_suffix_iff {text : String} :
    m.Lists format ⟨text, false⟩ ↔ text ∈ namesOf id format m.suffixes :=
  Iff.rfl

lemma lists_pattern_iff {text : String} :
    m.Lists format ⟨text, true⟩ ↔ text ∈ namesOf SuffixPattern.source format m.patterns :=
  Iff.rfl

lemma lists_remove_iff {format' : String} {suffix' : SuffixConfig} :
    (m.remove format' suffix').Lists format suffix ↔
      m.Lists format suffix ∧ ¬(format' = format ∧ suffix' = suffix) := by
  obtain ⟨text, isPattern⟩ := suffix
  obtain ⟨text', isPattern'⟩ := suffix'
  cases isPattern' <;> cases isPattern
  · rw [lists_suffix_iff, lists_suffix_iff]
    show text ∈ namesOf id format (takeFrom id format' text' m.suffixes) ↔ _
    rw [mem_namesOf_takeFrom]
    simp
  · simp [lists_pattern_iff, Matcher.remove]
  · simp [lists_suffix_iff, Matcher.remove]
  · rw [lists_pattern_iff, lists_pattern_iff]
    show text ∈ namesOf SuffixPattern.source format
      (takeFrom SuffixPattern.source format' text' m.patterns) ↔ _
    rw [mem_namesOf_takeFrom]
    simp

lemma lists_removeFormat_iff {format' : String} :
    (m.removeFormat format').Lists format suffix ↔ m.Lists format suffix ∧ format' ≠ format := by
  obtain ⟨text, isPattern⟩ := suffix
  cases isPattern with
  | false => exact mem_namesOf_remove
  | true => exact mem_namesOf_remove

/-! ## Matchers in order -/

variable [PatternEngine]

/-- A pattern is the one that its text stands for. -/
def IsRead (p : SuffixPattern) : Prop :=
  PatternEngine.compile? (anchored p.source) = some p.isMatch

/-- Both registers of a matcher are in order. -/
structure WellFormed (m : Matcher) : Prop where
  suffixes : IsRegister id (fun _ => True) m.suffixes
  patterns : IsRegister SuffixPattern.source IsRead m.patterns

/-- A suffix is registered as it is, a pattern if it can be read; a refusal changes nothing. -/
lemma register_cases (m : Matcher) (format : String) (suffix : SuffixConfig) :
    (suffix.isPattern = false ∧ m.register format suffix =
      ({ m with suffixes := addTo id format suffix.text m.suffixes }, none)) ∨
    (suffix.isPattern = true ∧ ∃ p, p.source = suffix.text ∧ IsRead p ∧
      m.register format suffix =
        ({ m with patterns := addTo SuffixPattern.source format p m.patterns }, none)) ∨
    (suffix.isPattern = true ∧ PatternEngine.compile? (anchored suffix.text) = none ∧
      m.register format suffix = (m, some (.suffixPattern suffix.text))) := by
  rw [register]
  cases hpattern : suffix.isPattern with
  | false => exact Or.inl ⟨rfl, if_neg Bool.false_ne_true⟩
  | true =>
    rw [if_pos rfl]
    cases hread : PatternEngine.compile? (anchored suffix.text) with
    | none =>
      refine Or.inr (Or.inr ⟨rfl, rfl, ?_⟩)
      rw [SuffixPattern.ofText, hread]
    | some isMatch =>
      refine Or.inr (Or.inl ⟨rfl, ⟨suffix.text, isMatch⟩, rfl, hread, ?_⟩)
      rw [SuffixPattern.ofText, hread]

namespace WellFormed

lemma empty : Matcher.empty.WellFormed := ⟨IsRegister.empty, IsRegister.empty⟩

lemma register (h : m.WellFormed) (format : String) (suffix : SuffixConfig) :
    (m.register format suffix).1.WellFormed := by
  rcases m.register_cases format suffix with
    ⟨-, hregister⟩ | ⟨-, p, -, hread, hregister⟩ | ⟨-, -, hregister⟩
  · rw [hregister]
    exact ⟨h.suffixes.addTo trivial, h.patterns⟩
  · rw [hregister]
    exact ⟨h.suffixes, h.patterns.addTo hread⟩
  · rw [hregister]
    exact h

lemma remove (h : m.WellFormed) (format : String) (suffix : SuffixConfig) :
    (m.remove format suffix).WellFormed := by
  rw [Matcher.remove]
  split
  · exact ⟨h.suffixes, h.patterns.takeFrom⟩
  · exact ⟨h.suffixes.takeFrom, h.patterns⟩

lemma load (h : m.WellFormed) (format output : String) (suffixes : List SuffixConfig) :
    (m.load format output suffixes).1.WellFormed := by
  induction suffixes generalizing m with
  | nil => exact ⟨h.suffixes, h.patterns⟩
  | cons suffix rest ih =>
    -- what is refused ends the loading; the suffixes before it stay
    have hregister := h.register format suffix
    rw [Matcher.load]
    split
    · rename_i hnext
      rw [hnext] at hregister
      exact ih hregister
    · rename_i hnext
      rw [hnext] at hregister
      exact hregister

/-- Whatever an edit is, it keeps the registers in order. -/
lemma edit (h : m.WellFormed) (e : MatcherEdit) : (m.edit e).1.WellFormed := by
  cases e with
  | register format suffix => exact h.register format suffix
  | remove format suffix => exact h.remove format suffix
  | removeFormat format => exact ⟨h.suffixes.remove, h.patterns.remove⟩
  | setOutput format extension => exact ⟨h.suffixes, h.patterns⟩
  | load format output suffixes => exact h.load format output suffixes

lemma run (h : m.WellFormed) (edits : List MatcherEdit) : (m.run edits).WellFormed := by
  induction edits generalizing m with
  | nil => exact h
  | cons e edits ih => exact ih (h.edit e)

/-- What is new, and is registered and removed again, leaves no trace. -/
lemma remove_register (h : m.WellFormed) (hnew : ¬m.Lists format suffix)
    (hregister : (m.register format suffix).2 = none) :
    (m.register format suffix).1.remove format suffix = m := by
  rcases m.register_cases format suffix with
    ⟨hpattern, heq⟩ | ⟨hpattern, p, hsource, hread, heq⟩ | ⟨-, -, heq⟩
  · rw [Lists, if_neg (by simp [hpattern])] at hnew
    rw [heq, Matcher.remove, if_neg (by simp [hpattern])]
    exact congrArg (fun t => { m with suffixes := t }) (h.suffixes.takeFrom_addTo hnew)
  · rw [Lists, if_pos hpattern, ← hsource] at hnew
    rw [heq, Matcher.remove, if_pos hpattern, ← hsource]
    exact congrArg (fun t => { m with patterns := t }) (h.patterns.takeFrom_addTo hnew)
  · rw [heq] at hregister
    cases hregister

end WellFormed

end Matcher

end Raster
