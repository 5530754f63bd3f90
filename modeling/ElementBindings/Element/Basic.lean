import ElementBindings.Path.Basic

/-!
# Element/Basic — what is known about a custom element

An `Element` is one registered tag together with the public surface of its class: properties,
events, slots and the first paragraph of its documentation.  A `Manifest` lists the elements of a
build in the order they were found.
-/

namespace ElementBindings

/-- How a class can be imported from its module. -/
inductive ExportKind where
  /-- by its own name -/
  | named
  /-- as the module's default export -/
  | byDefault
  /-- not at all; importing the module registers the element -/
  | none
deriving DecidableEq, Inhabited, Repr

/-- A public property of an element. -/
structure Property where
  name : String
  /-- the declared type, as written -/
  type : String
  /-- declared as always present, with no initial value -/
  required : Bool
  /-- the initializer, as written -/
  defaultValue : Option String
  /-- mirrored to its attribute -/
  reflects : Bool
  /-- the attribute, for properties that have one -/
  attributeName : Option String
deriving DecidableEq, Inhabited, Repr

/-- Whether a property is a flag. -/
def Property.isBoolean (p : Property) : Bool := p.type == "boolean"

/-- An event of an element; the detail type is absent for a plain event. -/
structure Event where
  name : String
  detail : Option String
deriving DecidableEq, Inhabited, Repr

/-- One registered custom element. -/
structure Element where
  tagName : String
  className : String
  exportKind : ExportKind
  /-- the file that declares the class -/
  source : Path
  properties : List Property
  events : List Event
  /-- the slot names; the default slot is the empty one -/
  slots : List String
  /-- the first paragraph of the documentation -/
  description : Option String
deriving DecidableEq, Inhabited, Repr

/-- The elements of a build, in the order they were found. -/
structure Manifest where
  elements : List Element
deriving DecidableEq, Inhabited, Repr

namespace Manifest

/-- The number of elements. -/
def size (m : Manifest) : Nat := m.elements.length

/-- Whether no element was found. -/
def isEmpty (m : Manifest) : Bool := m.elements.isEmpty

/-- The element registered under a tag. -/
def find? (m : Manifest) (tag : String) : Option Element :=
  m.elements.find? (·.tagName == tag)

end Manifest

end ElementBindings
