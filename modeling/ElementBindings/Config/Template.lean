import ElementBindings.Text.Blank
import ElementBindings.Text.Names

/-!
# Config/Template — import paths from component names

An import template such as `@acme/components/{kebab}` gives the path that the class of a component
is imported from.  A placeholder stands for the name as it is, in lower case, or with hyphens.
-/

namespace ElementBindings

/-- Where classes are imported from, with placeholders for the name of the component. -/
structure ImportTemplate where
  text : String
deriving DecidableEq, Inhabited, Repr

namespace ImportTemplate

/-- What is wrong with a template. -/
inductive Fault where
  | blank
  | unclosed
  | unknown (placeholder : String)
deriving DecidableEq, Repr

/-- What is said about a template that is wrong. -/
def Fault.message : Fault → String
  | blank => "template is empty"
  | unclosed => "unclosed placeholder"
  | unknown placeholder => "unknown placeholder \x7b" ++ placeholder ++ "\x7d"

/-- The placeholders, without their braces. -/
def placeholders : List String := ["name", "lower", "kebab"]

/-- Looks through the placeholders of a text.  The first argument holds, reversed, what has been read
of a placeholder that is open. -/
def check : Option (List Char) → List Char → Except Fault Unit
  | none, [] => .ok ()
  | some _, [] => .error .unclosed
  | none, '{' :: cs => check (some []) cs
  | none, _ :: cs => check none cs
  | some inside, '}' :: cs =>
    let placeholder := String.ofList inside.reverse
    if placeholders.contains placeholder then check none cs else .error (.unknown placeholder)
  | some inside, c :: cs => check (some (c :: inside)) cs

/-- **The template that a text writes**, or what is wrong with it. -/
def read (text : String) : Except Fault ImportTemplate :=
  if (Text.trim text.toList).isEmpty then .error .blank
  else (check none text.toList).map fun _ => ⟨text⟩

/-- A text with a placeholder replaced. -/
def fill (placeholder value : String) (cs : List Char) : List Char :=
  Text.replace ('{' :: placeholder.toList ++ ['}']) value.toList cs

/-- **The import path of a component.**  The placeholders are filled one after the other. -/
def render (t : ImportTemplate) (name : String) : String :=
  String.ofList (fill "kebab" (Text.kebabCase name) (fill "lower" (Text.lowerString name)
    (fill "name" name t.text.toList)))

end ImportTemplate

end ElementBindings
