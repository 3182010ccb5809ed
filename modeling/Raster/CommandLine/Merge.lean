import Raster.CommandLine.Plan
/-!
# Merging groups step by step

Groups become one by looking at one image after the other.  As long as the label of an image is
taken, it gets one more underscore; then the image is put behind those before it, and its label is
taken from there on.  `Merging.step?` is one such step, and there is none once all images have been
looked at.  Nothing bounds the number of steps.
-/

namespace Raster

/-- A path with some underscores behind it. -/
def Path.underscored (p : Path) (n : Nat) : Path := ⟨p.chars ++ List.replicate n '_'⟩

namespace CommandLine

/-- How far the merging of groups has come. -/
structure Merging where
  /-- The images that are still to come; the first of them may have got underscores. -/
  pending : List Labelled
  /-- The labels that are taken. -/
  taken : List Path
  /-- The images that have their labels, in order. -/
  merged : List Labelled

namespace Merging

/-- Before the first image. -/
def start (groups : List (List Labelled)) : Merging := ⟨groups.flatten, [], []⟩

/-- Lengthen the label of the next image, or accept the image. -/
def step? : Merging → Option Merging
  | ⟨[], _, _⟩ => none
  | ⟨i :: rest, taken, merged⟩ =>
    if isTaken taken i.label then
      some ⟨⟨i.label.underscored 1, i.image⟩ :: rest, taken, merged⟩
    else some ⟨rest, i.label :: taken, merged ++ [i]⟩

/-- Take exactly so many steps. -/
def run : Nat → Merging → Option Merging
  | 0, state => some state
  | n + 1, state => state.step? >>= run n

end Merging

end CommandLine

end Raster
