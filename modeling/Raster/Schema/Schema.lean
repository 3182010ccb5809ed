import Raster.Options.Options
/-!
# Option schemas

A schema describes the options of an operation: a forest of headings, settings, and gates.  A
gate is itself an option, a truth value, and encloses other nodes, which have a meaning only
while it is on.

`Schema.find?` looks an option up together with the gates around it, `Schema.validate`
accepts an option map in which every entry is declared, passes its node's check, and stands
behind open gates, and `Schema.finalize` adds the defaults of all reachable options.
-/

namespace Raster

/-- What values a setting takes, and which one it has by default. -/
inductive SettingKind where
  | int (default : Int32) (range : Option (Int32 × Int32))
  | double (default : Float) (range : Option (Float × Float))
  /-- A text; the range bounds the number of its characters. -/
  | text (default : String) (range : Option (UInt64 × UInt64))
  | choice (default : String) (values : List String)
  | checkbox (default : Bool)
deriving BEq

/-- A single option. -/
structure Setting where
  id : String
  name : String
  kind : SettingKind
  help : Option String
deriving BEq

/-- An option that switches the nodes inside it on or off. -/
structure Gate where
  id : String
  name : String
  default : Bool
  help : Option String
deriving BEq

/-- A forest of option descriptions. -/
inductive Schema where
  | nil
  /-- A heading, which is only shown. -/
  | header (name : String) (rest : Schema)
  | setting (setting : Setting) (rest : Schema)
  | gated (gate : Gate) (inner rest : Schema)
deriving BEq

/-- A node that has a key. -/
inductive OptionNode where
  | setting (setting : Setting)
  | gate (gate : Gate)

namespace OptionNode

/-- The key of a node. -/
def id : OptionNode → String
  | setting s => s.id
  | gate g => g.id

/-- The value that a node's key has when it is not given. -/
def default : OptionNode → OptionValue
  | gate g => .bool g.default
  | setting s =>
    match s.kind with
    | .int d _ => .int d
    | .double d _ => .double d
    | .text d _ => .text d
    | .choice d _ => .text d
    | .checkbox d => .bool d

/-! ## Checking a value -/

/-- What is wrong with an integer. -/
def intFault? (v : Int32) : Option (Int32 × Int32) → Option ValueFault
  | some (lo, hi) => if v < lo ∨ hi < v then some (.outside (.int v) (.int lo) (.int hi)) else none
  | none => none

/-- What is wrong with a double. -/
def doubleFault? (v : Float) : Option (Float × Float) → Option ValueFault
  | some (lo, hi) =>
    if v < lo ∨ hi < v then some (.outside (.double v) (.double lo) (.double hi)) else none
  | none => none

/-- What is wrong with the length of a text. -/
def lengthFault? (n : Nat) : Option (UInt64 × UInt64) → Option ValueFault
  | some (lo, hi) =>
    if n < lo.toNat ∨ hi.toNat < n then some (.lengthOutside n lo.toNat hi.toNat) else none
  | none => none

/-- What is wrong with a value of a setting. -/
def settingFault? : SettingKind → OptionValue → Option ValueFault
  | .int _ range, .int v => intFault? v range
  | .double _ range, .double v => doubleFault? v range
  | .double _ range, .int v => doubleFault? (intDouble v.toInt) range
  | .text _ range, .text v => lengthFault? v.length range
  | .choice _ values, .text v => if v ∈ values then none else some (.notAmong v values)
  | .checkbox _, .bool _ => none
  | _, v => some (.unexpectedKind v.kind)

/-- What is wrong with a value of a node. -/
def fault? : OptionNode → OptionValue → Option ValueFault
  | setting s, v => settingFault? s.kind v
  | gate _, .bool _ => none
  | gate _, v => some (.unexpectedKind v.kind)

end OptionNode

/-! ## Looking an option up -/

namespace Schema

/-- The first node with a key, in the order in which the schema is written, and the gates
around it, the outermost first. -/
def find? (key : String) : Schema → Option (OptionNode × List Gate)
  | nil => none
  | header _ rest => find? key rest
  | setting s rest => if s.id = key then some (.setting s, []) else find? key rest
  | gated g inner rest =>
    if g.id = key then some (.gate g, [])
    else
      match find? key inner with
      | some (node, gates) => some (node, g :: gates)
      | none => find? key rest

/-- Whether a schema has no nodes. -/
def isEmpty : Schema → Bool
  | nil => true
  | _ => false

end Schema

/-! ## Validation -/

/-- Whether a gate is open: its key has the value true, or no value and the gate is open by
default. -/
def Gate.isOpen (o : Options) (g : Gate) : Bool :=
  match o.get? g.id with
  | some (.bool b) => b
  | some _ => false
  | none => g.default

namespace Schema

/-- Check one entry of an option map. -/
def checkEntry (schema : Schema) (o : Options) (key : String) (value : OptionValue) :
    Except Refusal Unit :=
  match schema.find? key with
  | none => .error (.unknownOption key)
  | some (node, gates) =>
    match node.fault? value with
    | some fault => .error (.badOption key fault)
    | none =>
      match gates.find? fun g => !g.isOpen o with
      | some g => .error (.optionDisabled key g.id)
      | none => .ok ()

/-- Check every entry of an option map. -/
def validate (schema : Schema) (o : Options) : Except Refusal Unit :=
  o.entries.forM fun (key, value) => schema.checkEntry o key value

/-- Whether an option map is valid. -/
def isValid (schema : Schema) (o : Options) : Bool := (schema.validate o).isOk

end Schema

/-! ## Defaults -/

/-- Give a key a value unless it has one. -/
def Options.insertNew (o : Options) (key : String) (value : OptionValue) : Options :=
  if o.contains key then o else o.insert key value

/-- Whether a key has the value true. -/
def Options.isOn (o : Options) (key : String) : Bool :=
  match o.get? key with
  | some (.bool b) => b
  | _ => false

/-- Add the default of every option that is missing and not behind a closed gate. -/
def Schema.finalize : Schema → Options → Options
  | nil, o => o
  | header _ rest, o => finalize rest o
  | setting s rest, o => finalize rest (o.insertNew s.id (OptionNode.setting s).default)
  | gated g inner rest, o =>
    let o := o.insertNew g.id (.bool g.default)
    finalize rest (if o.isOn g.id then finalize inner o else o)

end Raster
