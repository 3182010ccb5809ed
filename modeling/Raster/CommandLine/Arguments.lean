import Raster.Path
/-!
# Arguments

Arguments are keys, values of keys, and two paths.  A key is written with two dashes in full,
or with one dash and one letter; the value of a key follows it, as the next argument, after an
equals sign, or right behind the letter.  After two dashes alone there are only paths.
-/

namespace Raster.CommandLine

/-- A key that has a value. -/
inductive ValuedKey where
  | format | algorithm | algorithmOptions | loadingOptions | savingOptions | preset
  | helpFormat | helpAlgorithm
deriving DecidableEq, Repr

/-- A key without a value. -/
inductive Flag where
  | recurse | asOne | printInfo | allowOverride | list | verbose
deriving DecidableEq, Repr

/-- What a key asks for. -/
inductive Key where
  | valued (key : ValuedKey)
  | flag (flag : Flag)
  | help
  | version

namespace Key

/-- The key with a full name. -/
def ofName? : String → Option Key
  | "format" => some (.valued .format)
  | "algorithm" => some (.valued .algorithm)
  | "algo-options" => some (.valued .algorithmOptions)
  | "loading-options" => some (.valued .loadingOptions)
  | "saving-options" => some (.valued .savingOptions)
  | "preset" => some (.valued .preset)
  | "help-format" => some (.valued .helpFormat)
  | "help-algo" => some (.valued .helpAlgorithm)
  | "recurse" => some (.flag .recurse)
  | "as-one" => some (.flag .asOne)
  | "print-info" => some (.flag .printInfo)
  | "allow-override" => some (.flag .allowOverride)
  | "list" => some (.flag .list)
  | "verbose" => some (.flag .verbose)
  | "help" => some .help
  | "version" => some .version
  | _ => none

/-- The key with a letter. -/
def ofLetter? : Char → Option Key
  | 'f' => some (.valued .format)
  | 'a' => some (.valued .algorithm)
  | 'r' => some (.flag .recurse)
  | 'v' => some (.flag .verbose)
  | 'h' => some .help
  | 'V' => some .version
  | _ => none

end Key

/-- What the arguments say. -/
structure Arguments where
  /-- The file or folder to read. -/
  input : Option Path := none
  /-- The file or folder to write. -/
  output : Option Path := none
  /-- The keys with values, in the order in which they were given. -/
  values : List (ValuedKey × String) := []
  flags : List Flag := []

namespace Arguments

/-- The value of a key. -/
def value? (a : Arguments) (key : ValuedKey) : Option String := a.values.lookup key

/-- The algorithms, in the order in which they were given. -/
def algorithms (a : Arguments) : List String :=
  a.values.filterMap fun (key, value) => if key = .algorithm then some value else none

/-- Whether a flag is given. -/
def has (a : Arguments) (flag : Flag) : Bool := flag ∈ a.flags

end Arguments

/-- Why arguments are not acted on. -/
inductive Unusable where
  /-- The usage is asked for. -/
  | help
  /-- The version is asked for. -/
  | version
  /-- The arguments make no sense. -/
  | misuse
deriving DecidableEq, Repr

/-- Arguments that are being read. -/
structure Reading where
  arguments : Arguments := {}
  /-- A key that waits for its value. -/
  pending : Option ValuedKey := none
  /-- Whether only paths follow. -/
  isLiteral : Bool := false

namespace Reading

/-- Give a key a value.  Only algorithms may be given more than once, and the name of a preset
must not be empty. -/
def addValue (r : Reading) (key : ValuedKey) (value : List Char) : Except Unusable Reading :=
  let a := r.arguments
  if (key ≠ .algorithm ∧ (a.value? key).isSome) ∨ (key = .preset ∧ value.isEmpty) then
    .error .misuse
  else
    .ok { r with
      arguments := { a with values := a.values ++ [(key, String.ofList value)] }
      pending := none }

/-- Add a flag, which must be new. -/
def addFlag (r : Reading) (flag : Flag) : Except Unusable Reading :=
  if r.arguments.has flag then .error .misuse
  else .ok { r with arguments := { r.arguments with flags := flag :: r.arguments.flags } }

/-- Add a path.  The first is the input and the second the output. -/
def addPath (r : Reading) (text : List Char) : Except Unusable Reading :=
  if text.isEmpty then .error .misuse
  else
    match r.arguments.input, r.arguments.output with
    | none, _ => .ok { r with arguments := { r.arguments with input := some ⟨text⟩ } }
    | some _, none => .ok { r with arguments := { r.arguments with output := some ⟨text⟩ } }
    | some _, some _ => .error .misuse

/-- Add a key that is written in full, with the value that is attached to it. -/
def addNamed (r : Reading) (name : String) (attached : Option (List Char)) :
    Except Unusable Reading :=
  match Key.ofName? name, attached with
  | some (.valued key), some value => r.addValue key value
  | some (.valued key), none => .ok { r with pending := some key }
  | some (.flag flag), none => r.addFlag flag
  | some .help, none => .error .help
  | some .version, none => .error .version
  | _, _ => .error .misuse

/-- Add keys that are written as letters; what stands behind a letter that takes a value is its
value. -/
def addLetters (r : Reading) : List Char → Except Unusable Reading
  | [] => .ok r
  | c :: cs =>
    match Key.ofLetter? c with
    | some (.valued key) =>
      match cs with
      | [] => .ok { r with pending := some key }
      | '=' :: value => r.addValue key value
      | value => r.addValue key value
    | some (.flag flag) => do addLetters (← r.addFlag flag) cs
    | some .help => .error .help
    | some .version => .error .version
    | none => .error .misuse

/-- Read one argument. -/
def add (r : Reading) (text : List Char) : Except Unusable Reading :=
  if r.isLiteral then r.addPath text
  else
    match text, r.pending with
    | '-' :: _ :: _, some _ => .error .misuse
    | _, some key => r.addValue key text
    | ['-', '-'], none => .ok { r with isLiteral := true }
    | '-' :: '-' :: named, none =>
      let name := named.takeWhile (· ≠ '=')
      let attached :=
        if name.length < named.length then some (named.drop (name.length + 1)) else none
      r.addNamed (String.ofList name) attached
    | '-' :: c :: letters, none => r.addLetters (c :: letters)
    | _, none => r.addPath text

end Reading

/-- Whether something can be done without an input. -/
def Arguments.needsNoInput (a : Arguments) : Bool :=
  a.has .list || (a.value? .helpFormat).isSome || (a.value? .helpAlgorithm).isSome

/-- Read arguments. -/
def Arguments.parse (texts : List String) : Except Unusable Arguments := do
  let r ← texts.foldlM (fun r text => r.add text.toList) ({} : Reading)
  if r.pending.isSome then throw .misuse
  if r.arguments.input.isNone && !r.arguments.needsNoInput then throw .misuse
  return r.arguments

end Raster.CommandLine
