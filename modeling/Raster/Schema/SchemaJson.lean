import Raster.Options.OptionsJson
import Raster.Schema.Schema
/-!
# Schemas as JSON

A schema is a list of nodes.  A node is an object with its kind under `type`, or a list of its
kind and its fields in order; behind a gate the kind may also be given by its number.  Ranges and
help texts may be missing or null; members that the kind does not know are skipped, and a member
that it knows must not be repeated.
-/

namespace Raster

/-! ## Reading -/

/-- The value of a field of a node: as it is, and as a schema if it is one. -/
structure Field where
  value : Json
  schema : Option Schema

namespace Field

/-- A text. -/
def text? : Field → Option String
  | ⟨.text s, _⟩ => some s
  | _ => none

/-- A truth value. -/
def bool? : Field → Option Bool
  | ⟨.bool b, _⟩ => some b
  | _ => none

/-- An integer of 32 bits. -/
def int? : Json → Option Int32
  | .int n => int32? n
  | _ => none

/-- A double, which may be written as an integer. -/
def double? : Json → Option Float
  | .int n => some (intDouble n)
  | .double x => some x
  | _ => none

/-- A length. -/
def length? : Json → Option UInt64
  | .int n => if 0 ≤ n ∧ n < UInt64.size then some (UInt64.ofNat n.toNat) else none
  | _ => none

/-- A list of texts. -/
def texts? : Json → Option (List String)
  | .list items => items.mapM fun j => text? ⟨j, none⟩
  | _ => none

/-- A list of two, or null. -/
def range? {α : Type} (bound? : Json → Option α) : Json → Option (Option (α × α))
  | .null => some none
  | .list [lo, hi] => do return some (← bound? lo, ← bound? hi)
  | _ => none

/-- A help text, or null. -/
def help? : Json → Option (Option String)
  | .null => some none
  | .text s => some (some s)
  | _ => none

end Field

/-- The kind of a node, as `type` names it. -/
inductive NodeKind where
  | header | int | double | text | choice | checkbox | subsection
deriving DecidableEq, Repr

namespace NodeKind

/-- The name of a kind. -/
def name : NodeKind → String
  | header => "header"
  | int => "int"
  | double => "double"
  | text => "text"
  | choice => "choice"
  | checkbox => "checkbox"
  | subsection => "subsection"

/-- Every kind, in the order of their numbers. -/
def all : List NodeKind := [header, int, double, text, choice, checkbox, subsection]

/-- The kind that a JSON value stands for: the one of that name or, behind a gate, of that
number. -/
def ofJson? (gated : Bool) : Json → Option NodeKind
  | .text s => all.find? fun k => k.name = s
  | .int n => if gated ∧ 0 ≤ n then all[n.toNat]? else none
  | _ => none

/-- The fields of a node of this kind, in order. -/
def fields : NodeKind → List String
  | header => ["name"]
  | int | double | text => ["var_name", "name", "default", "range", "help"]
  | choice => ["var_name", "name", "default", "values", "help"]
  | checkbox => ["var_name", "name", "default", "help"]
  | subsection => ["var_name", "name", "default", "options", "help"]

end NodeKind

/-- The fields of a node. -/
abbrev Fields := List (String × Field)

namespace Fields

/-- A field that must be there. -/
def get? (fs : Fields) (key : String) : Option Field :=
  (fs.find? fun f => f.1 = key).map (·.2)

/-- A field that may be missing. -/
def json (fs : Fields) (key : String) : Json :=
  match fs.get? key with
  | some f => f.value
  | none => .null

/-- Whether no field of a kind is repeated. -/
def distinct (fs : Fields) (kind : NodeKind) : Bool :=
  kind.fields.all fun key => (fs.filter fun f => f.1 = key).length ≤ 1

/-- A single option with its identity. -/
def setting? (fs : Fields) (kind : SettingKind) : Option (Schema → Schema) := do
  let id ← (← fs.get? "var_name").text?
  let name ← (← fs.get? "name").text?
  let help ← Field.help? (fs.json "help")
  return .setting ⟨id, name, kind, help⟩

/-- The node of a kind that the fields make up, to be put before the rest of a schema. -/
def node? (fs : Fields) : NodeKind → Option (Schema → Schema)
  | .header => do
    let name ← (← fs.get? "name").text?
    return .header name
  | .int => do
    let default ← Field.int? (← fs.get? "default").value
    let range ← Field.range? Field.int? (fs.json "range")
    fs.setting? (.int default range)
  | .double => do
    let default ← Field.double? (← fs.get? "default").value
    let range ← Field.range? Field.double? (fs.json "range")
    fs.setting? (.double default range)
  | .text => do
    let default ← (← fs.get? "default").text?
    let range ← Field.range? Field.length? (fs.json "range")
    fs.setting? (.text default range)
  | .choice => do
    let default ← (← fs.get? "default").text?
    let values ← Field.texts? (← fs.get? "values").value
    fs.setting? (.choice default values)
  | .checkbox => do
    let default ← (← fs.get? "default").bool?
    fs.setting? (.checkbox default)
  | .subsection => do
    let id ← (← fs.get? "var_name").text?
    let name ← (← fs.get? "name").text?
    let default ← (← fs.get? "default").bool?
    let inner ← (← fs.get? "options").schema
    let help ← Field.help? (fs.json "help")
    return .gated ⟨id, name, default, help⟩ inner

/-- The node that the members of an object make up. -/
def ofObject? (gated : Bool) (fs : Fields) : Option (Schema → Schema) := do
  let kind ← NodeKind.ofJson? gated (← fs.get? "type").value
  if (fs.filter fun f => f.1 = "type").length = 1 ∧ fs.distinct kind then fs.node? kind else none

/-- The node that the items of a list make up. -/
def ofItems? (gated : Bool) : List Field → Option (Schema → Schema)
  | [] => none
  | tag :: fs => do
    let kind ← NodeKind.ofJson? gated tag.value
    if fs.length = kind.fields.length then node? (kind.fields.zip fs) kind else none

end Fields

namespace Schema

mutual

/-- The schema that a JSON value stands for; `gated` says that it stands behind a gate. -/
def ofJson? (gated : Bool) : Json → Option Schema
  | .list items => ofNodes? gated items
  | _ => none

/-- The schema of some nodes. -/
def ofNodes? (gated : Bool) : List Json → Option Schema
  | [] => some nil
  | j :: js => do
    let node ← ofNode? gated j
    return node (← ofNodes? gated js)

/-- A single node, to be put before the rest of a schema. -/
def ofNode? (gated : Bool) : Json → Option (Schema → Schema)
  | .object members => (memberFields members).ofObject? gated
  | .list items => Fields.ofItems? gated (itemFields items)
  | _ => none

/-- The members of an object as fields. -/
def memberFields : List (String × Json) → Fields
  | [] => []
  | (key, j) :: ms => (key, ⟨j, ofJson? true j⟩) :: memberFields ms

/-- The items of a list as fields. -/
def itemFields : List Json → List Field
  | [] => []
  | j :: js => ⟨j, ofJson? true j⟩ :: itemFields js

end

/-- Read a schema from the text of a list. -/
def parse [JsonLibrary] (s : String) : Except Failure Schema :=
  match (JsonLibrary.read? s).bind (ofJson? false) with
  | some schema => .ok schema
  | none => .error (.config .schema)

end Schema

/-! ## Writing -/

/-- A range as a list, or null. -/
def rangeJson {α : Type} (bound : α → Json) : Option (α × α) → Json
  | some (lo, hi) => .list [bound lo, bound hi]
  | none => .null

/-- A help text, or null. -/
def helpJson : Option String → Json
  | some s => .text s
  | none => .null

/-- The kind of a setting. -/
def SettingKind.nodeKind : SettingKind → NodeKind
  | int _ _ => .int
  | double _ _ => .double
  | text _ _ => .text
  | choice _ _ => .choice
  | checkbox _ => .checkbox

/-- The members that depend on the kind of a setting. -/
def SettingKind.members : SettingKind → List (String × Json)
  | int d range =>
    [("default", .int d.toInt), ("range", rangeJson (fun b => .int b.toInt) range)]
  | double d range => [("default", .double d), ("range", rangeJson Json.double range)]
  | text d range =>
    [("default", .text d), ("range", rangeJson (fun b => .int b.toNat) range)]
  | choice d values => [("default", .text d), ("values", .list (values.map Json.text))]
  | checkbox d => [("default", .bool d)]

/-- The JSON values of the nodes of a schema. -/
def Schema.nodes : Schema → List Json
  | nil => []
  | header name rest =>
    .object [("type", .text NodeKind.header.name), ("name", .text name)] :: rest.nodes
  | setting s rest =>
    .object ([("type", .text s.kind.nodeKind.name), ("var_name", .text s.id),
      ("name", .text s.name)] ++ s.kind.members ++ [("help", helpJson s.help)]) :: rest.nodes
  | gated g inner rest =>
    .object [("type", .text NodeKind.subsection.name), ("var_name", .text g.id),
      ("name", .text g.name), ("default", .bool g.default), ("options", .list inner.nodes),
      ("help", helpJson g.help)] :: rest.nodes

/-- The JSON value of a schema. -/
def Schema.toJson (schema : Schema) : Json := .list schema.nodes

end Raster
