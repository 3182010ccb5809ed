import Mathlib.Tactic.Common
import Raster.CommandLine.Run
import Raster.Files.Session
/-!
# What only reads

Most parts of a run leave the files as they are: looking at files, loading images, reading the
settings, planning, and printing.  `KeepsFiles` says so of a computation; it passes from the
steps of a computation to the whole of it, whatever library decodes the pictures.
-/

namespace Raster

/-- A computation that leaves the files as they are. -/
def KeepsFiles {α : Type} (x : InMemory α) : Prop := ∀ s : Session, (x.run s).2.files = s.files

namespace KeepsFiles

variable {α β ε : Type}

lemma pure (a : α) : KeepsFiles (Pure.pure a : InMemory α) := fun _ => rfl

lemma bind {x : InMemory α} {f : α → InMemory β} (hx : KeepsFiles x)
    (hf : ∀ a, KeepsFiles (f a)) : KeepsFiles (x >>= f) := fun s =>
  (hf (x.run s).1 (x.run s).2).trans (hx s)

lemma ask (f : FileTree → α) : KeepsFiles (Session.ask f) := fun _ => rfl

lemma printLine (line : String) : KeepsFiles (Console.printLine line : InMemory Unit) :=
  fun _ => rfl

/-! ## Computations that may fail -/

lemma throw (e : ε) : KeepsFiles (throw e : ExceptT ε InMemory α).run := fun _ => rfl

lemma lift {x : InMemory α} (hx : KeepsFiles x) :
    KeepsFiles (ExceptT.lift x : ExceptT ε InMemory α).run :=
  hx.bind fun _ => KeepsFiles.pure _

/-- What follows is only reached if nothing has failed. -/
lemma bindT {x : ExceptT ε InMemory α} {f : α → ExceptT ε InMemory β} (hx : KeepsFiles x.run)
    (hf : ∀ a, KeepsFiles (f a).run) : KeepsFiles (x >>= f).run := by
  have hbind : (x >>= f).run = x.run >>= ExceptT.bindCont f := rfl
  rw [hbind]
  refine KeepsFiles.bind hx fun r => ?_
  cases r with
  | ok a => exact hf a
  | error e => exact KeepsFiles.pure _

lemma forM {f : α → ExceptT ε InMemory Unit} (hf : ∀ a, KeepsFiles (f a).run) (l : List α) :
    KeepsFiles (l.forM f).run := by
  induction l with
  | nil => exact KeepsFiles.pure _
  | cons a l ih => exact (hf a).bindT fun _ => ih

end KeepsFiles

/-! ## Loading -/

lemma FileFormat.keepsFiles_readFile {α : Type} (f : List Byte → Except Rejection α) (path : Path) :
    KeepsFiles (FileFormat.readFile f path : InMemory _) := by
  refine (KeepsFiles.ask _).bind fun r => ?_
  cases r with
  | ok bytes => exact KeepsFiles.pure _
  | error e => exact KeepsFiles.pure _

lemma keepsFiles_firstAnswer {α : Type} {ask : FileFormat → InMemory (Except Failure (Option α))}
    (hask : ∀ f, KeepsFiles (ask f)) (o : Options) (names : List String) :
    KeepsFiles (firstAnswer ask o names) := by
  induction names with
  | nil => exact KeepsFiles.pure _
  | cons name names ih =>
    rw [firstAnswer]
    split
    · exact KeepsFiles.pure _
    · split
      · refine (hask _).bind fun answer => ?_
        split
        · exact ih
        · exact KeepsFiles.pure _
      · exact ih

namespace Matcher

variable (matcher : Matcher)

lemma keepsFiles_askFormats {α : Type} (path : Path) (format : Option String) (o : Options)
    {ask : FileFormat → InMemory (Except Failure (Option α))} (hask : ∀ f, KeepsFiles (ask f)) :
    KeepsFiles (matcher.askFormats path format o ask) := by
  rw [askFormats]
  split
  · exact KeepsFiles.pure _
  · refine (keepsFiles_firstAnswer hask o _).bind fun answer => ?_
    split
    · exact KeepsFiles.pure _
    · exact KeepsFiles.pure _
    · exact KeepsFiles.pure _

lemma keepsFiles_loadImages [Coding] (path : Path) (base : Option Path) (format : Option String)
    (o : Options) : KeepsFiles (matcher.loadImages path base format o : InMemory _) :=
  (matcher.keepsFiles_askFormats path format o fun _ => FileFormat.keepsFiles_readFile _ _).bind
    fun _ => KeepsFiles.pure _

lemma keepsFiles_properties [Coding] (path : Path) (o : Options) :
    KeepsFiles (matcher.properties path o : InMemory _) :=
  matcher.keepsFiles_askFormats path none o fun _ => FileFormat.keepsFiles_readFile _ _

lemma keepsFiles_loadFiles [Coding] (base : Path) (format : Option String) (o : Options)
    (paths : List Path) : KeepsFiles (matcher.loadFiles base format o paths : InMemory _) := by
  induction paths with
  | nil => exact KeepsFiles.pure _
  | cons path paths ih =>
    refine (matcher.keepsFiles_loadImages path (some base) format o).bind fun r => ?_
    split
    · exact ih
    · exact KeepsFiles.pure _
    · exact ih.bind fun _ => KeepsFiles.pure _

lemma keepsFiles_loadFolder [Coding] (folder : Path) (deep : Bool) (format : Option String)
    (o : Options) : KeepsFiles (matcher.loadFolder folder deep format o : InMemory _) := by
  refine (KeepsFiles.ask _).bind fun r => ?_
  cases r with
  | ok paths => exact matcher.keepsFiles_loadFiles folder format o paths
  | error e => exact KeepsFiles.pure _

end Matcher

/-! ## Parts of a run -/

namespace CommandLine

variable (matcher : Matcher) (s : Settings)

lemma keepsFiles_say (line : String) : KeepsFiles (say line : Part InMemory Unit).run :=
  (KeepsFiles.printLine line).lift

lemma keepsFiles_orReport {ε α : Type} (report : ε → RunFailure) {x : InMemory (Except ε α)}
    (hx : KeepsFiles x) : KeepsFiles (orReport report x).run :=
  hx.bind fun _ => KeepsFiles.pure _

lemma keepsFiles_printNames : KeepsFiles (printNames : Part InMemory Unit).run :=
  (keepsFiles_say _).bindT fun _ =>
    (KeepsFiles.forM (fun _ => keepsFiles_say _) _).bindT fun _ =>
      (keepsFiles_say _).bindT fun _ => KeepsFiles.forM (fun _ => keepsFiles_say _) _

lemma keepsFiles_printFormat (name : String) :
    KeepsFiles (printFormat name : Part InMemory Unit).run :=
  (keepsFiles_orReport _ (KeepsFiles.pure _)).bindT fun _ =>
    (keepsFiles_say _).bindT fun _ => (keepsFiles_say _).bindT fun _ => keepsFiles_say _

lemma keepsFiles_printAlgorithm (name : String) :
    KeepsFiles (printAlgorithm name : Part InMemory Unit).run :=
  (keepsFiles_orReport _ (KeepsFiles.pure _)).bindT fun _ =>
    (keepsFiles_say _).bindT fun _ => keepsFiles_say _

lemma keepsFiles_printFile [Coding] (o : Options) (path : Path) :
    KeepsFiles (printFile matcher o path : Part InMemory Unit).run := by
  have hrest (size : Nat) : KeepsFiles (do
      let properties ← orReport (.notReadable path) (matcher.properties path o)
      say s!"{path.text}:"
      say s!"File size: {sizeText size} KB"
      say properties.text : Part InMemory Unit).run :=
    (keepsFiles_orReport _ (matcher.keepsFiles_properties path o)).bindT fun _ =>
      (keepsFiles_say _).bindT fun _ => (keepsFiles_say _).bindT fun _ => keepsFiles_say _
  refine (KeepsFiles.ask _).lift.bindT fun kind => ?_
  split
  · exact (KeepsFiles.pure _).bindT hrest
  · exact (KeepsFiles.pure _).bindT hrest
  · exact (KeepsFiles.throw _).bindT hrest

lemma keepsFiles_printInput [Coding] (isFolder : Bool) (input : Path) :
    KeepsFiles (printInput matcher s isFolder input : Part InMemory Unit).run := by
  rw [printInput]
  split
  · exact (keepsFiles_orReport _ (KeepsFiles.ask _)).bindT fun _ =>
      KeepsFiles.forM (fun _ => keepsFiles_printFile matcher _ _) _
  · exact keepsFiles_printFile matcher _ _

lemma keepsFiles_loadGroups [Coding] (isFolder : Bool) (input : Path) :
    KeepsFiles (loadGroups matcher s isFolder input : Part InMemory _).run := by
  rw [loadGroups]
  split
  · exact (keepsFiles_orReport _ (matcher.keepsFiles_loadFolder input s.recurse none _)).bindT
      fun _ => KeepsFiles.pure _
  · refine KeepsFiles.bindT ?_ fun _ => KeepsFiles.pure _
    exact keepsFiles_orReport _ (matcher.keepsFiles_loadImages input none none _)

lemma keepsFiles_plan [Coding] (transform : LineTransform) (isFolder : Bool) (input output : Path) :
    KeepsFiles (plan transform matcher s isFolder input output : Part InMemory _).run := by
  rw [plan]
  refine (keepsFiles_loadGroups matcher s isFolder input).bindT fun groups => ?_
  exact keepsFiles_orReport id
    (KeepsFiles.pure (planGroups transform matcher s isFolder output groups))

lemma keepsFiles_checkFree (writes : List PlannedWrite) :
    KeepsFiles (checkFree writes : Part InMemory Unit).run := by
  induction writes with
  | nil => exact KeepsFiles.pure _
  | cons w writes ih =>
    refine ((KeepsFiles.ask _).bind fun _ => KeepsFiles.pure _).lift.bindT fun found => ?_
    split
    · exact (KeepsFiles.throw _).bindT fun _ => ih
    · exact ih

end CommandLine

end Raster
