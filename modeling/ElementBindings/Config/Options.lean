import ElementBindings.Json.Basic
import ElementBindings.Wrapper.Basic

/-!
# Config/Options — options as they are given

Options are an object with a member per option, or an array with the options in their order.  They
are read but not judged here: whether they fit together is the matter of a `Config`.
-/

namespace ElementBindings

/-- What a project asks for. -/
structure Options where
  /-- the pattern of the component sources -/
  glob : String
  /-- what is taken off the front of tags -/
  lead : String
  policy : PrefixPolicy
  /-- the directory of the declarations -/
  outDir : Path
  /-- where the virtual module is declared to be -/
  virtualLocation : Path
  /-- whether the wrappers are compiled with the components -/
  samePackage : Bool
  sourcePath : Option Path
  /-- the published build to watch -/
  watchDist : Option Path
  /-- where classes of a published build are imported from -/
  importPath : Option String
deriving DecidableEq, Inhabited, Repr

namespace Options

/-! ## Faults -/

/-- What an option has to be. -/
inductive Expected where
  | string
  | boolean
  | path
  | policy
  /-- nothing, behind the name of a policy -/
  | unit
  | options
deriving DecidableEq, Repr

/-- What is said that an option has to be. -/
def Expected.text : Expected → String
  | string => "a string"
  | boolean => "a boolean"
  | path => "path string"
  | policy => "string or map"
  | unit => "unit"
  | options => "struct PluginOptions"

/-- Why options cannot be read. -/
inductive Fault where
  | wrongType (found : Json.Value) (expected : Expected)
  | unknownOption (name : String)
  | unknownPolicy (name : String)
  | manyPolicies
  | missingGlob
  | tooFew (length : Nat)
  | tooMany (length : Nat)

/-- The names of the options, in their order. -/
def names : List String :=
  ["glob", "prefix", "prefix_policy", "out_dir", "virtual_location", "same_package", "src_path",
    "watch_dist", "import_path"]

/-- A name between back quotes. -/
def ticked (s : String) : String := "\x60" ++ s ++ "\x60"

/-- What is said about options that cannot be read. -/
def Fault.message : Fault → String
  | wrongType found expected => "invalid type: " ++ found.describe ++ ", expected " ++ expected.text
  | unknownOption name =>
    "unknown field " ++ ticked name ++ ", expected one of " ++ ", ".intercalate (names.map ticked)
  | unknownPolicy name =>
    "unknown variant " ++ ticked name ++ ", expected " ++ ticked "strict" ++ " or "
    ++ ticked "pass-through"
  | manyPolicies => "invalid value: map, expected map with a single key"
  | missingGlob => "missing field " ++ ticked "glob"
  | tooFew length =>
    "invalid length " ++ toString length ++ ", expected struct PluginOptions with 9 elements"
  | tooMany length => "invalid length " ++ toString length ++ ", expected fewer elements in array"

/-! ## Values -/

open Json (Value)

/-- A string. -/
def readString : Value → Except Fault String
  | .text s => .ok s
  | v => .error (.wrongType v .string)

/-- A flag. -/
def readBoolean : Value → Except Fault Bool
  | .boolean b => .ok b
  | v => .error (.wrongType v .boolean)

/-- A path. -/
def readPath : Value → Except Fault Path
  | .text s => .ok ⟨s⟩
  | v => .error (.wrongType v .path)

/-- A value that may be `null` instead. -/
def readOptional {α : Type} (read : Value → Except Fault α) : Value → Except Fault (Option α)
  | .null => .ok none
  | v => (read v).map some

/-- The policy of a name. -/
def policyNamed : String → Except Fault PrefixPolicy
  | "strict" => .ok .strict
  | "pass-through" => .ok .passThrough
  | s => .error (.unknownPolicy s)

/-- A policy: its name, or an object with its name for the only member and nothing in it. -/
def readPolicy : Value → Except Fault PrefixPolicy
  | .text s => policyNamed s
  | .object [(name, v)] => do
    let policy ← policyNamed name
    match v with
    | .null => return policy
    | v => throw (.wrongType v .unit)
  | .object _ => .error .manyPolicies
  | v => .error (.wrongType v .policy)

/-! ## Reading -/

/-- The options that nothing is said about. -/
def defaults : Options where
  glob := ""
  lead := ""
  policy := .strict
  outDir := ⟨"./dist"⟩
  virtualLocation := ⟨"src/react/index.ts"⟩
  samePackage := false
  sourcePath := none
  watchDist := none
  importPath := none

/-- Options with one of them set by its name. -/
def set (o : Options) (name : String) (v : Value) : Except Fault Options :=
  match name with
  | "glob" => (readString v).map ({ o with glob := · })
  | "prefix" => (readString v).map ({ o with lead := · })
  | "prefix_policy" => (readPolicy v).map ({ o with policy := · })
  | "out_dir" => (readPath v).map ({ o with outDir := · })
  | "virtual_location" => (readPath v).map ({ o with virtualLocation := · })
  | "same_package" => (readBoolean v).map ({ o with samePackage := · })
  | "src_path" => (readOptional readPath v).map ({ o with sourcePath := · })
  | "watch_dist" => (readOptional readPath v).map ({ o with watchDist := · })
  | "import_path" => (readOptional readString v).map ({ o with importPath := · })
  | _ => .error (.unknownOption name)

/-- Options with some of them set, in the order given. -/
def setAll (o : Options) : List (String × Value) → Except Fault Options
  | [] => .ok o
  | (name, v) :: members => do setAll (← o.set name v) members

/-- **The options that a value states.**  The members of an object are read in the order of their
names.  An array may leave out options that have a default, up to the first one at its end that has
none. -/
def ofValue : Value → Except Fault Options
  | .object members => do
    let o ← setAll defaults (members.mergeSort fun a b => a.1 ≤ b.1)
    if members.any (·.1 == "glob") then return o else throw .missingGlob
  | .array items => do
    let o ← setAll defaults (names.zip items)
    let length := items.length
    if length = 0 then throw (.tooFew 0)
    if length ≤ 6 then throw (.tooFew 6)
    if length < names.length then throw (.tooFew length)
    if names.length < length then throw (.tooMany length)
    return o
  | v => .error (.wrongType v .options)

end Options

end ElementBindings
