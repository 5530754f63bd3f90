import ElementBindings.Element.Basic
import ElementBindings.Json.Basic

/-!
# Element/Data — elements as data

A manifest is exchanged as an array with an object per element.  The members of an object always
stand in the same order, and what is not known about an element is left out.
-/

namespace ElementBindings

open Json (Value)

/-- The word for a way to export. -/
def ExportKind.word : ExportKind → String
  | named => "named"
  | byDefault => "default"
  | none => "none"

/-- A member of an object, unless its value is not known. -/
def member? (name : String) (s : Option String) : List (String × Value) :=
  (s.map fun s => (name, Value.text s)).toList

/-- A property as data. -/
def Property.data (p : Property) : Value :=
  .object ([("name", .text p.name), ("type", .text p.type), ("required", .boolean p.required)]
    ++ member? "defaultValue" p.defaultValue ++ [("reflectsToAttribute", .boolean p.reflects)]
    ++ member? "attribute" p.attributeName)

/-- An event as data. -/
def Event.data (e : Event) : Value :=
  .object (("name", .text e.name) :: member? "detailType" e.detail)

/-- An element as data. -/
def Element.data (e : Element) : Value :=
  .object ([("tagName", .text e.tagName), ("className", .text e.className),
      ("exportKind", .text e.exportKind.word), ("sourceModulePath", .text e.source.text),
      ("properties", .array (e.properties.map Property.data)),
      ("events", .array (e.events.map Event.data)), ("slots", .array (e.slots.map Value.text))]
    ++ member? "description" e.description)

/-- **A manifest as data.** -/
def Manifest.data (m : Manifest) : Value := .array (m.elements.map Element.data)

end ElementBindings
