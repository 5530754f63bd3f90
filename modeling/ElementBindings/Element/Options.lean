import ElementBindings.Script.Tree

/-!
# Element/Options — the options a property is declared with

Options are an object literal: the argument of a decorator, or an entry of a static `properties`
object.  Only literals and names are read; of an option given twice, the last one counts.
-/

namespace ElementBindings

open Script

/-! ## Options -/

/-- What the options say about the attribute of a property. -/
inductive AttributeOption where
  /-- the name of the property, in lower case -/
  | lowerCase
  | named (name : String)
  | disabled
deriving DecidableEq, Inhabited, Repr

/-- The options of a property. -/
structure PropertyOptions where
  /-- the constructor that stands for the type -/
  constructorName : Option String
  reflect : Bool
  attributeOption : AttributeOption
  /-- internal, and no part of the surface -/
  state : Bool
deriving DecidableEq, Inhabited, Repr

namespace PropertyOptions

/-- No options. -/
def plain : PropertyOptions := ⟨none, false, .lowerCase, false⟩

/-- The options of internal state. -/
def internal : PropertyOptions := { plain with state := true }

/-- Options with one more member of their object taken in. -/
def add (o : PropertyOptions) : ObjectMember → PropertyOptions
  | .spread _ => o
  | .property key value =>
    match key.name?, value with
    | some "type", .identifier s => { o with constructorName := some s }
    | some "reflect", .boolean b => { o with reflect := b }
    | some "state", .boolean b => { o with state := b }
    | some "attribute", .string s => { o with attributeOption := .named s }
    | some "attribute", .boolean false => { o with attributeOption := .disabled }
    | _, _ => o

/-- The options that the members of an object state. -/
def ofMembers (members : List ObjectMember) : PropertyOptions := members.foldl add plain

end PropertyOptions

/-! ## Literals -/

/-- The members of an object literal, which may stand in parentheses or before an `as`. -/
def objectMembers? : Expr → Option (List ObjectMember)
  | .object members => some members
  | .asType e | .parenthesized e => objectMembers? e
  | _ => none

/-- The options an expression states; no options if it is no object. -/
def optionsOf (e : Expr) : PropertyOptions :=
  ((objectMembers? e).map PropertyOptions.ofMembers).getD .plain

/-- The strings of an array literal, which may stand before an `as`. -/
def arrayStrings : Expr → List String
  | .array items => items.filterMap fun
    | .value (.string s) => some s
    | _ => none
  | .asType e => arrayStrings e
  | _ => []

/-- The first argument, if it is a string. -/
def firstString? : List Item → Option String
  | .value (.string s) :: _ => some s
  | _ => none

/-- The type of a literal. -/
def literalType? : Expr → Option String
  | .string _ | .template _ => some "string"
  | .number => some "number"
  | .boolean _ => some "boolean"
  | _ => none

/-- The type that a constructor stands for. -/
def typeOfConstructor? : String → Option String
  | "Boolean" => some "boolean"
  | "Number" => some "number"
  | "String" => some "string"
  | "Array" => some "unknown[]"
  | "Object" => some "Record<string, unknown>"
  | _ => none

/-! ## Decorators -/

/-- The options of a decorator that declares a property or internal state. -/
def decoratorOptions? : Expr → Option PropertyOptions
  | .call (.identifier "property") (.value e :: _) => some (optionsOf e)
  | .call (.identifier "property") _ | .identifier "property" => some .plain
  | .call (.identifier "state") _ | .identifier "state" => some .internal
  | .call (.identifier "internalProperty") _ | .identifier "internalProperty" => some .internal
  | _ => none

/-- **The options of a member**, from the first of its decorators that gives any. -/
def memberOptions? (decorators : List Expr) : Option PropertyOptions :=
  decorators.findSome? decoratorOptions?

/-- The tag that a decorator registers its class under. -/
def decoratorTag? : Expr → Option String
  | .call (.identifier "customElement") arguments => firstString? arguments
  | _ => none

end ElementBindings
