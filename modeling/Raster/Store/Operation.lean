import Raster.Store.Store
/-!
# Operations on a store

One operation makes an array or writes into one.  An operation that goes wrong makes nothing;
what it had written until then stays, and is seen through every handle on the buffer.
-/

namespace Raster

/-- An operation on a store; `name` is the handle that it makes, `source` the one that it
starts from. -/
inductive StoreOperation where
  /-- An array of zeros. -/
  | zeros (name : String) (type : PixelType) (shape : Shape)
  /-- An array of given pixels. -/
  | ofPixels (name : String) (type : PixelType) (shape : Shape) (pixels : Array type.Pixel)
  /-- An array whose pixels depend on their coordinates. -/
  | ofCoordinates (name : String) (type : PixelType) (shape : Shape)
      (f : List Nat → type.Pixel)
  /-- Another handle on the same buffer. -/
  | share (name source : String)
  /-- Another handle on the same buffer, if it holds pixels of some type. -/
  | view (name source : String) (type : PixelType)
  /-- A copy of its own. -/
  | copy (name source : String)
  | map (name source : String) (type : PixelType) (f : (s : PixelType) → s.Pixel → type.Pixel)
  | mapWithCoordinates (name source : String) (type : PixelType)
      (f : (s : PixelType) → s.Pixel → List Nat → type.Pixel)
  /-- A new array whose lines are made of the lines of the old one; its type may depend on the
  old type. -/
  | mapLines (name source : String) (axis : Nat) (type : PixelType → PixelType)
      (f : (s : PixelType) → (n : Nat) → Vector s.Pixel n → Vector (type s).Pixel n)
  | convert (name source : String) (conversion : Conversion) (target : PixelType)
  /-- Write one pixel, by its coordinate. -/
  | set (source : String) (coordinate : List Nat) (type : PixelType) (pixel : type.Pixel)
  /-- Write one pixel, by its place in the buffer. -/
  | setFlat (source : String) (place : Nat) (type : PixelType) (pixel : type.Pixel)
  /-- Edit the lines along an axis in place. -/
  | editLines (source : String) (axis : Nat) (type : PixelType)
      (edits : Nat → List (LineEdit type.Pixel))

namespace Store

variable (s : Store)

/-- The image that the handle of a given name sees. -/
def find (name : String) : Except Fault (Handle × Image) :=
  match s.handle? name with
  | some h =>
    match s.image? h with
    | some image => .ok (h, image)
    | none => .error .outOfBounds
  | none => .error .outOfBounds

/-- Write into the array of a given name: what comes out of the change is written, also if the
change did not come to its end. -/
def modify (name : String) (type : PixelType)
    (change : (shape : Shape) → Grid shape type.Pixel → Grid shape type.Pixel × Option Fault) :
    Store × Option Fault :=
  match s.find name with
  | .error fault => (s, some fault)
  | .ok (h, image) =>
    match image.view type with
    | .error fault => (s, some fault)
    | .ok grid =>
      let (changed, fault) := change image.shape grid
      (s.write h ⟨type, image.shape, changed⟩, fault)

/-- The outcome of a change that happens completely or not at all. -/
def orUnchanged {α : Type} (old : α) : Except Fault α → α × Option Fault
  | .ok new => (new, none)
  | .error fault => (old, some fault)

/-- The store after making an array, or the old one and what went wrong. -/
def make (name : String) (image : Except Fault Image) : Store × Option Fault :=
  orUnchanged s (image.map (s.new name))

/-- Make an array out of another one. -/
def makeFrom (name source : String) (f : Image → Except Fault Image) : Store × Option Fault :=
  s.make name (do
    let (_, image) ← s.find source
    f image)

/-- Edit lines of a grid along the axis of a given number. -/
def editAxis {shape : Shape} {α : Type} (axis : Nat) (edits : Nat → List (LineEdit α))
    (g : Grid shape α) : Grid shape α × Option Fault :=
  match shape.axis? axis with
  | .ok axis => g.editLines axis edits
  | .error fault => (g, some fault)

/-- Carry out one operation. -/
def step : StoreOperation → Store × Option Fault
  | .zeros name type shape => s.make name (.ok (Image.zeros type shape))
  | .ofPixels name type shape pixels => s.make name (Image.ofArray? type shape pixels)
  | .ofCoordinates name type shape f => s.make name (.ok ⟨type, shape, Grid.ofFn shape f⟩)
  | .share name source =>
    orUnchanged s ((s.find source).map fun (h, _) => s.named name h)
  | .view name source type =>
    orUnchanged s (do
      let (h, image) ← s.find source
      let _ ← image.view type
      return s.named name h)
  | .copy name source => s.makeFrom name source .ok
  | .map name source type f =>
    s.makeFrom name source fun i => .ok ⟨type, i.shape, i.grid.map (f i.type)⟩
  | .mapWithCoordinates name source type f =>
    s.makeFrom name source fun i => .ok ⟨type, i.shape, i.grid.mapWithCoordinates (f i.type)⟩
  | .mapLines name source axis type f =>
    s.makeFrom name source fun i => do
      let axis ← i.shape.axis? axis
      return ⟨type i.type, i.shape, i.grid.mapLines axis (f i.type _)⟩
  | .convert name source conversion target =>
    orUnchanged s (do
      let (h, image) ← s.find source
      return s.newDerived name h (image.convert conversion target))
  | .set source coordinate type pixel =>
    s.modify source type fun _ g => orUnchanged g (g.set coordinate pixel)
  | .setFlat source place type pixel =>
    s.modify source type fun _ g => orUnchanged g (g.setFlat place pixel)
  | .editLines source axis type edits =>
    s.modify source type fun _ g => editAxis axis edits g

/-- Carry out operations one after the other; one that goes wrong does not stop the next. -/
def run (operations : List StoreOperation) : Store :=
  operations.foldl (fun s operation => (s.step operation).1) s

end Store

end Raster
