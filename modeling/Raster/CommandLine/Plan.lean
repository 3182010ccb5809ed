import Raster.CommandLine.Settings
import Raster.Format.Resolve
import Raster.Labelled
/-!
# Plans

Before anything is written a run decides which images go to which files.  A group of images
goes to one file if its format can hold them all; else each image gets a file of its own, named
by its label.  Groups that are treated as one get labels that differ.
-/

namespace Raster.CommandLine

/-! ## One group of many -/

/-- Whether a label is among some labels. -/
def isTaken (taken : List Path) (label : Path) : Bool := taken.any fun p => p.same label

/-- A label with underscores behind it until it is not taken; `fuel` bounds their number. -/
def freshLabel (taken : List Path) : (fuel : Nat) → Path → Path
  | 0, label => label
  | fuel + 1, label =>
    if isTaken taken label then freshLabel taken fuel ⟨label.chars ++ ['_']⟩ else label

/-- Give each image a label that none of those before it has. -/
def relabel (taken : List Path) : List Labelled → List Labelled
  | [] => []
  | i :: rest =>
    let label := freshLabel taken (taken.length + 1) i.label
    ⟨label, i.image⟩ :: relabel (label :: taken) rest

/-- Make one group of many. -/
def mergeGroups (groups : List (List Labelled)) : List Labelled := relabel [] groups.flatten

/-! ## Algorithms -/

/-- The name of an algorithm without an underscore and digits behind it. -/
def baseName (name : String) : String :=
  let back := name.toList.reverse
  let digits := back.takeWhile (· ≠ '_')
  if digits.length < back.length ∧ !digits.isEmpty ∧ digits.all Char.isDigit then
    String.ofList (back.drop (digits.length + 1)).reverse
  else name

/-- Apply algorithms to a group, one after the other. -/
def applyAlgorithms (transform : LineTransform) (s : Settings) (group : List Labelled) :
    Except RunFailure (List Labelled) :=
  s.algorithms.foldlM (fun group name =>
    let step : ChainStep := ⟨baseName name, (s.algorithmOptions.lookup name).getD .empty⟩
    (step.apply transform group).mapError (.algorithmFailed name)) group

/-! ## Files -/

/-- Images that go to one file. -/
structure PlannedWrite where
  images : List Image
  path : Path

/-- Where a group goes: to a file, or to files in a folder. -/
structure Target where
  file : Path
  folder : Path

/-- The target of a group.  Out of a folder, it is named by the label of its first image. -/
def targetOf (fromFolder : Bool) (output first : Path) : Target :=
  if fromFolder then
    let file := output.join first
    ⟨file, file.parent?.getD output⟩
  else ⟨output, output⟩

/-- The name of the file of an image with a file of its own. -/
def ownName (label : Path) : Path := ⟨label.fileName?.getD "image".toList⟩

/-- Plan a file for each image of a group. -/
def planEach (matcher : Matcher) (folder : Path) (format : Option String) :
    List Labelled → Except RunFailure (List PlannedWrite)
  | [] => .ok []
  | i :: rest => do
    match matcher.resolve [i.image] (folder.join (ownName i.label)) format with
    | .error e => throw (.notStorable i.label (.unsupported e))
    | .ok destination =>
      let others ← planEach matcher folder format rest
      return ⟨[i.image], destination.path⟩ :: others

/-- Plan the files of a group. -/
def planGroup (matcher : Matcher) (target : Target) (format : Option String)
    (group : List Labelled) : Except RunFailure (List PlannedWrite) :=
  let images := group.map Labelled.image
  match matcher.resolve images target.file format with
  | .ok destination => .ok [⟨images, destination.path⟩]
  | .error e =>
    if group.length = 1 then .error (.failed (.unsupported e))
    else planEach matcher target.folder format group

/-- Plan the files of all groups, after the algorithms.  A group without images needs none. -/
def planGroups (transform : LineTransform) (matcher : Matcher) (s : Settings) (fromFolder : Bool)
    (output : Path) : List (List Labelled) → Except RunFailure (List PlannedWrite)
  | [] => .ok []
  | group :: groups => do
    let group ← applyAlgorithms transform s group
    let writes ← match group with
      | [] => pure []
      | first :: _ => planGroup matcher (targetOf fromFolder output first.label) s.format group
    let others ← planGroups transform matcher s fromFolder output groups
    return writes ++ others

end Raster.CommandLine
