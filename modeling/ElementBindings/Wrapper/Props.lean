import ElementBindings.Text.Quoted
import ElementBindings.Wrapper.Basic

/-!
# Wrapper/Props — the documentation and the props type of a component

Both generated files show a component's doc comment and the type of its props.  The type takes the
attributes of every element, less those the component replaces by props of its own.
-/

namespace ElementBindings

/-! ## Documentation -/

/-- A text in which no comment ends. -/
def commentSafe (s : String) : String :=
  String.ofList (Text.replace ['*', '/'] ['*', '\\', '/'] s.toList)

/-- A slot as documentation names it. -/
def slotLabel (slot : String) : String := if slot.isEmpty then "(default)" else slot

/-- What a component's doc comment says, line by line. -/
def Wrapper.docLines (w : Wrapper) : List String :=
  (match w.description with
    | some text => [commentSafe text, ""]
    | none => [])
  ++ ["React wrapper for \x60<" ++ w.tagName ++ ">\x60."]
  ++ (if w.slots.isEmpty then [] else ["Slots: " ++ ", ".intercalate (w.slots.map slotLabel)])

/-- A line inside a doc comment. -/
def docLine (line : String) : String := if line.isEmpty then " *\n" else " * " ++ line ++ "\n"

/-- **The doc comment of a component.** -/
def Wrapper.doc (w : Wrapper) : String :=
  "/**\n" ++ String.join (w.docLines.map docLine) ++ " */\n"

/-! ## Types -/

/-- Whether an initializer can stand in a comment of one line. -/
def fitsComment (text : String) : Bool :=
  !text.toList.contains '\n' && !Text.contains ['*', '/'] text.toList

/-- A property as a member of the props type. -/
def Property.member (p : Property) : String :=
  let note := match p.defaultValue with
    | some text => if fitsComment text then "  /** @default " ++ text ++ " */\n" else ""
    | none => ""
  note ++ "  " ++ p.name ++ (if p.required then "" else "?") ++ ": " ++ p.type ++ ";\n"

/-- A handler as a member of the props type. -/
def BoundEvent.member (e : BoundEvent) : String :=
  "  " ++ e.handler ++ "?: (event: " ++ e.type ++ ") => void;\n"

/-- The attributes a component passes on: all of them but those it has props for. -/
def Wrapper.attributesType (w : Wrapper) : String :=
  if w.keys.isEmpty then "React.HTMLAttributes<HTMLElement>"
  else "Omit<React.HTMLAttributes<HTMLElement>, " ++ " | ".intercalate (w.keys.map Text.quoted) ++ ">"

/-- **The declaration of a component's props type.** -/
def Wrapper.propsDeclaration (w : Wrapper) : String :=
  "export type " ++ w.propsType ++ " = " ++ w.attributesType ++ " & \x7b\n"
  ++ String.join (w.properties.map Property.member)
  ++ String.join (w.events.map BoundEvent.member)
  ++ "  children?: React.ReactNode;\n\x7d;\n"

end ElementBindings
