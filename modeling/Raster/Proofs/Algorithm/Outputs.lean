import Raster.Proofs.Algorithm.Outcome
import Raster.Proofs.Store.Conversion
/-!
# What algorithms return

Splitting channels returns one new image for each component, under the name of its role; every
other algorithm returns a single image without a role (`Algorithm.run_cases`).  This one is the
input itself for a change of type that leaves the type as it is, and for a function on pixels
that has nothing to do for pixels of some type (`Algorithm.handsOn`), and else it is new.
-/

namespace Raster

/-- Whether a function on pixels hands images of some type on. -/
def Remapping.keeps : Remapping → PixelType → Bool
  | .identity, _ => true
  | .abs, .gray _ => true
  | .linearStretch, .complex _ => true
  | .negative, .complex _ => true
  | _, _ => false

/-- Whether a change of type hands images of some type on. -/
def TypeChange.keeps : TypeChange → PixelType → Bool
  | .keep, _ => true
  | .convert target _, type => type = target

/-- Whether an algorithm hands an image of some type on, with options that are complete. -/
def Algorithm.handsOn (a : Algorithm) (o : Options) (type : PixelType) : Bool :=
  match a with
  | changeType =>
    match o.text "output_type" with
    | .ok name => name = sameAsInput || PixelType.ofName? name = some type
    | .error _ => false
  | toGray8 => type = .gray .eight
  | unaryMath =>
    match o.text "function" >>= Remapping.ofName with
    | .ok f => f.keeps type
    | .error _ => false
  | blur | fourier | resize | splitChannels => false

lemma Image.isShared_convert (image : Image) (c : Conversion) (target : PixelType) :
    (image.convert c target).isShared = decide (image.type = target) := by
  rw [convert_eq, Bool.eq_iff_iff, isShared_followed, decide_eq_true_iff]
  exact eq_comm

lemma Image.isShared_remap {image : Image} {f : Remapping} {d : Derived}
    (h : image.remap? f = some d) : d.isShared = f.keeps image.type := by
  obtain ⟨type, shape, g⟩ := image
  cases type with
  | gray | real | complex =>
    cases h
    cases f <;> rfl
  | grayAlpha | rgb | rgba => cases h

namespace Algorithm

variable {transform : LineTransform} {a : Algorithm} {o : Options} {image : Image}
  {outputs : List Output}

lemma of_orRefuse_eq_ok {α : Type} {r : Except Refusal α} {x : α} (h : orRefuse r = .ok x) :
    r = .ok x := by
  cases r with
  | ok y =>
    cases h
    rfl
  | error cause => cases h

/-- Nothing is converted if the type stays, and if it becomes what it is. -/
lemma handsOn_changeType {change : TypeChange} (h : TypeChange.ofOptions o = .ok change)
    (type : PixelType) : changeType.handsOn o type = change.keeps type := by
  obtain ⟨name, hname, h⟩ := exists_of_bind_eq_ok h
  rw [handsOn, hname]
  dsimp only
  by_cases hsame : name = sameAsInput
  · rw [if_pos hsame] at h
    cases h
    simp [hsame, TypeChange.keeps]
  · rw [if_neg hsame] at h
    obtain ⟨target, htarget, h⟩ := exists_of_bind_eq_ok h
    obtain ⟨conversion, -, h⟩ := exists_of_bind_eq_ok h
    cases h
    have hfound : PixelType.ofName? name = some target := by
      rw [PixelType.ofName] at htarget
      split at htarget
      · rename_i t ht
        cases htarget
        exact ht
      · cases htarget
    simp [hsame, hfound, TypeChange.keeps, eq_comm]

/-- **What an algorithm returns:** the components of the image, or a single image, which is the
input itself exactly if the options and the pixel type say so. -/
lemma run_cases (h : a.run transform o image = .ok outputs) :
    (a = splitChannels ∧ ∃ components, image.components? = some components ∧
      outputs = components.map fun (role, i) => ⟨role, .fresh i⟩) ∨
    (a ≠ splitChannels ∧ ∃ d : Derived, outputs = singleOutput d ∧
      d.isShared = a.handsOn o image.type) := by
  unfold run at h
  cases a with
  | blur =>
    obtain ⟨settings, -, h⟩ := exists_of_bind_eq_ok h
    obtain ⟨blurred, -, h⟩ := exists_of_bind_eq_ok h
    exact Or.inr ⟨nofun, _, (Except.ok.inj h).symm, rfl⟩
  | changeType =>
    obtain ⟨change, hchange, h⟩ := exists_of_bind_eq_ok h
    have hkeeps := handsOn_changeType (of_orRefuse_eq_ok hchange) image.type
    cases change with
    | keep => exact Or.inr ⟨nofun, _, (Except.ok.inj h).symm, hkeeps.symm⟩
    | convert target conversion =>
      refine Or.inr ⟨nofun, _, (Except.ok.inj h).symm, ?_⟩
      rw [hkeeps, image.isShared_convert, TypeChange.keeps]
  | fourier =>
    obtain ⟨settings, -, h⟩ := exists_of_bind_eq_ok h
    cases hs : image.spectrum? transform settings with
    | none =>
      rw [hs] at h
      cases h
    | some spectrum =>
      rw [hs] at h
      exact Or.inr ⟨nofun, _, (Except.ok.inj h).symm, rfl⟩
  | resize =>
    obtain ⟨settings, -, h⟩ := exists_of_bind_eq_ok h
    obtain ⟨resized, -, h⟩ := exists_of_bind_eq_ok h
    exact Or.inr ⟨nofun, _, (Except.ok.inj h).symm, rfl⟩
  | splitChannels =>
    cases hcomponents : image.components? with
    | none =>
      simp only [hcomponents] at h
      cases h
    | some components =>
      simp only [hcomponents] at h
      exact Or.inl ⟨rfl, components, rfl, (Except.ok.inj h).symm⟩
  | toGray8 =>
    obtain ⟨conversion, -, h⟩ := exists_of_bind_eq_ok h
    exact Or.inr ⟨nofun, _, (Except.ok.inj h).symm, image.isShared_convert conversion _⟩
  | unaryMath =>
    obtain ⟨f, hf, h⟩ := exists_of_bind_eq_ok h
    cases hr : image.remap? f with
    | none =>
      rw [hr] at h
      cases h
    | some d =>
      rw [hr] at h
      refine Or.inr ⟨nofun, d, (Except.ok.inj h).symm, ?_⟩
      rw [Image.isShared_remap hr, handsOn, of_orRefuse_eq_ok hf]

/-- Every output is the input itself, or none is. -/
lemma isShared_of_run (h : a.run transform o image = .ok outputs) :
    ∀ output ∈ outputs, output.result.isShared = a.handsOn o image.type := by
  intro output hmem
  rcases run_cases h with ⟨rfl, components, -, rfl⟩ | ⟨-, d, rfl, hd⟩
  · obtain ⟨c, -, rfl⟩ := List.mem_map.1 hmem
    rfl
  · rw [List.mem_singleton.1 hmem]
    exact hd

end Algorithm

end Raster
