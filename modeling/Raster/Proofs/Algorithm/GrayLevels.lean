import Raster.Proofs.Algorithm.Chain
import Raster.Proofs.Algorithm.Outputs
import Raster.Proofs.Schema.Defaults
import Raster.Proofs.Schema.Unknown
/-!
# Two ways to eight-bit gray

An image is turned into eight-bit gray by an algorithm of its own, and by a change of type that
names this type.  The schema of the second is that of the first with the output type in front, so
both accept the same settings (`validate_namingGray_iff`) and complete them in the same way
(`ofOptions_namingGray`); what is left to do is the same conversion
(`toGray8_agrees_with_changeType`).
-/

namespace Raster

/-- The settings of a conversion do not depend on an option of another name. -/
lemma Conversion.ofOptions_congr {o o' : Options} (h : o.AgreesOff "output_type" o') :
    ofOptions o = ofOptions o' := by
  have hrequire : ∀ key, key ≠ "output_type" → o.require key = o'.require key := by
    intro key hkey
    rw [Options.require, Options.require, h key hkey]
  simp (disch := decide) only [ofOptions, Options.bool, Options.byte, Options.int, Options.double,
    hrequire]

namespace Algorithm

variable {transform : LineTransform} {o : Options} {image : Image}

/-- The setting of the output type. -/
def outputSetting : Setting :=
  ⟨"output_type", "Output type",
    .choice sameAsInput (sameAsInput :: PixelType.all.map PixelType.name), none⟩

lemma schema_changeType : changeType.schema = .setting outputSetting toGray8.schema := rfl

/-- The options for the change of type to eight-bit gray. -/
def namingGray (o : Options) : Options := o.insert "output_type" (.text "GRAY8")

variable (ho : o.get? "output_type" = none)

include ho in
lemma validate_namingGray_iff :
    changeType.schema.validate (namingGray o) = .ok () ↔ toGray8.schema.validate o = .ok () := by
  have hs : (Schema.setting outputSetting toGray8.schema).Distinct :=
    (schema_wellFormed changeType).toDistinct
  have hfault : (OptionNode.setting outputSetting).fault? (.text "GRAY8") = none := by
    decide +kernel
  rw [schema_changeType]
  exact (hs.validate_setting_iff ho).trans (and_iff_right hfault)

/-- Both algorithms fill in the same settings of the conversion. -/
lemma ofOptions_namingGray (o : Options) :
    Conversion.ofOptions (changeType.schema.finalize (namingGray o)) =
      Conversion.ofOptions (toGray8.schema.finalize o) := by
  have hself : (namingGray o).get? "output_type" = some (.text "GRAY8") := by
    simp [namingGray]
  have hgiven : (namingGray o).insertNew outputSetting.id
      (OptionNode.setting outputSetting).default = namingGray o :=
    Options.insertNew_eq_self hself _
  rw [schema_changeType, Schema.finalize, hgiven]
  refine (Conversion.ofOptions_congr ?_).symm
  exact (Options.AgreesOff.insert o _ _).finalize (by decide +kernel)

lemma text_namingGray (o : Options) :
    (changeType.schema.finalize (namingGray o)).text "output_type" = .ok "GRAY8" := by
  refine Options.text_eq_ok (Schema.finalize_extends _ _ _ _ ?_)
  simp [namingGray]

/-- Naming eight-bit gray as the type, a change of type does the work of turning to gray. -/
lemma run_namingGray (o : Options) (image : Image) :
    changeType.run transform (changeType.schema.finalize (namingGray o)) image =
      toGray8.run transform (toGray8.schema.finalize o) image := by
  have hfound : PixelType.ofName? "GRAY8" = some (.gray .eight) := by decide +kernel
  have hname : PixelType.ofName "GRAY8" = .ok (.gray .eight) := by rw [PixelType.ofName, hfound]
  have hother : "GRAY8" ≠ sameAsInput := by decide
  simp only [run, TypeChange.ofOptions, text_namingGray, ofOptions_namingGray, bind, Except.bind,
    if_neg hother, hname]
  cases Conversion.ofOptions (toGray8.schema.finalize o) with
  | error cause => rfl
  | ok c => rfl

/-- An algorithm that succeeds has been given options that its schema accepts. -/
lemma validate_of_applyNamed {a : Algorithm} {outputs : List Output}
    (h : applyNamed transform a.name o [image] = .ok outputs) : a.schema.validate o = .ok () := by
  rw [applyNamed_singleton] at h
  split at h
  · cases hv : a.schema.validate o with
    | ok u => rfl
    | error cause =>
      rw [hv] at h
      cases h
  · cases h

/-- **Turning to gray is a change of type.**  For an image that is not complex and an option map
without an output type, turning to gray succeeds exactly if its schema accepts the map.  A change
of type that names eight-bit gray, with the same options otherwise, succeeds in the same cases with
the same result: a single gray image of the same shape, which is the image itself exactly if that
is of eight-bit gray already. -/
theorem toGray8_agrees_with_changeType (transform : LineTransform) {o : Options} {image : Image}
    (ho : o.get? "output_type" = none) (hreal : image.type.isComplex = false) :
    (∀ outputs, applyNamed transform "to_gray8" o [image] = .ok outputs ↔
      applyNamed transform "change_type" (o.insert "output_type" (.text "GRAY8")) [image] =
        .ok outputs) ∧
    ((∃ outputs, applyNamed transform "to_gray8" o [image] = .ok outputs) ↔
      toGray8.schema.validate o = .ok ()) ∧
    ∀ outputs, applyNamed transform "to_gray8" o [image] = .ok outputs →
      ∃ d : Derived, outputs = singleOutput d ∧ (d.get image).type = .gray .eight ∧
        (d.get image).shape = image.shape ∧ (d.isShared = true ↔ image.type = .gray .eight) := by
  have hgray : image.type ∈ toGray8.types := by
    simp [types, PixelType.mem_all, hreal]
  have hany : image.type ∈ changeType.types := PixelType.mem_all _
  by_cases hv : toGray8.schema.validate o = .ok ()
  · -- both come down to the same conversion
    obtain ⟨c, hc⟩ := exists_conversion hv
    have hrun : toGray8.run transform (toGray8.schema.finalize o) image =
        .ok (singleOutput (image.convert c (.gray .eight))) := by
      simp only [run, hc]
      rfl
    have hturn : applyNamed transform "to_gray8" o [image] = _ :=
      (applyNamed_eq_run rfl hv hgray).trans hrun
    have hchange : applyNamed transform "change_type" (namingGray o) [image] = _ :=
      (applyNamed_eq_run rfl ((validate_namingGray_iff ho).2 hv) hany).trans
        ((run_namingGray o image).trans hrun)
    refine ⟨fun outputs => by rw [hturn]; exact (Eq.congr_left hchange).symm,
      iff_of_true ⟨_, hturn⟩ hv, fun outputs h => ⟨image.convert c (.gray .eight), ?_⟩⟩
    have hget : (image.convert c (.gray .eight)).get image =
        image.convertPixels c (.gray .eight) := by
      rw [Image.convert_eq, Image.get_followed]
    rw [hget, image.isShared_convert, decide_eq_true_iff]
    exact ⟨Except.ok.inj (h.symm.trans hturn), rfl, rfl, Iff.rfl⟩
  · have hturn : ∀ outputs, applyNamed transform "to_gray8" o [image] ≠ .ok outputs :=
      fun outputs h => hv (validate_of_applyNamed h)
    have hchange : ∀ outputs, applyNamed transform "change_type" (namingGray o) [image] ≠
        .ok outputs :=
      fun outputs h => hv ((validate_namingGray_iff ho).1 (validate_of_applyNamed h))
    exact ⟨fun outputs => iff_of_false (hturn outputs) (hchange outputs),
      iff_of_false (not_exists.2 hturn) hv,
      fun outputs h => absurd h (hturn outputs)⟩

/-- A transparent pixel over a dark background, beside an opaque one. -/
theorem transparent_gray_agrees :
    let image : Image := ⟨.grayAlpha, [2], ⟨#v[⟨100, 0⟩, ⟨9, 255⟩]⟩⟩
    let o := Options.ofList [("gray_bg", .int 7)]
    (o.get? "output_type" = none ∧ image.type.isComplex = false) ∧
      ∃ d : Derived, d.isShared = false ∧
        applyNamed LineTransform.direct "to_gray8" o [image] = .ok (singleOutput d) ∧
        applyNamed LineTransform.direct "change_type" (o.insert "output_type" (.text "GRAY8"))
          [image] = .ok (singleOutput d) := by
  intro image o
  have ho : o.get? "output_type" = none := rfl
  have hreal : image.type.isComplex = false := rfl
  obtain ⟨hsame, hsucceeds, hgray⟩ := toGray8_agrees_with_changeType LineTransform.direct ho hreal
  have hv : toGray8.schema.validate o = .ok () := rfl
  obtain ⟨outputs, houtputs⟩ := hsucceeds.2 hv
  obtain ⟨d, rfl, -, -, hshared⟩ := hgray outputs houtputs
  have hnew : d.isShared = false := Bool.eq_false_iff.2 fun h => by cases hshared.1 h
  exact ⟨⟨ho, hreal⟩, d, hnew, houtputs, (hsame _).1 houtputs⟩

end Algorithm

end Raster
