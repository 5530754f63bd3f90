import ElementBindings.Element.Basic
import ElementBindings.Path.Specifier
import ElementBindings.Text.Blank
import ElementBindings.Text.Names

/-!
# Wrapper/Basic — the component that wraps an element

A `Wrapper` holds what a generated component is rendered from: its name, the module its class is
imported from, and for each event the prop that handles it.  `WrapRules.wrappers` derives one wrapper
per element of a manifest, in manifest order, or says why there can be none.
-/

namespace ElementBindings

/-! ## Wrappers -/

/-- An event together with the prop that handles it. -/
structure BoundEvent extends Event where
  handler : String
deriving DecidableEq, Inhabited, Repr

/-- The type of the object a handler receives. -/
def BoundEvent.type (e : BoundEvent) : String :=
  match e.detail with
  | some detail => "CustomEvent<" ++ detail ++ ">"
  | none => "Event"

/-- The component that wraps one element. -/
structure Wrapper where
  /-- the exported name -/
  name : String
  tagName : String
  className : String
  exportKind : ExportKind
  /-- the module the class is imported from -/
  importPath : String
  properties : List Property
  events : List BoundEvent
  slots : List String
  description : Option String
deriving DecidableEq, Inhabited, Repr

/-- The name of the type of a component's props. -/
def Wrapper.propsType (w : Wrapper) : String := w.name ++ "Props"

/-- The props a component takes of its own: its properties, then its handlers. -/
def Wrapper.keys (w : Wrapper) : List String :=
  w.properties.map (·.name) ++ w.events.map (·.handler)

/-! ## Errors -/

/-- Why an element cannot be wrapped. -/
inductive WrapError where
  | prefixMismatch (tag lead : String)
  | unresolvedImport (tag : String)
  | invalidName (tag name : String)
  | duplicateName (name first second : String)
  | repeatedProp (wrapper name : String)
deriving DecidableEq, Repr

/-- What is said about an element that cannot be wrapped. -/
def WrapError.message : WrapError → String
  | prefixMismatch tag lead =>
    "Tag <" ++ tag ++ "> does not start with the configured prefix \"" ++ lead ++ "\""
  | unresolvedImport tag => "No import path resolved for <" ++ tag ++ ">"
  | invalidName tag name =>
    "<" ++ tag ++ "> derives wrapper name " ++ name ++ ", which is not a valid component name"
  | duplicateName name first second =>
    "Wrapper name " ++ name ++ " is derived from both <" ++ first ++ "> and <" ++ second ++ ">"
  | repeatedProp wrapper name => wrapper ++ " declares " ++ name ++ " more than once"

/-! ## Where classes are imported from -/

/-- How the import path of a wrapped class is found. -/
inductive ImportSource where
  /-- The sources lie in the same package: paths lead from the virtual module to the source. -/
  | samePackage (root sourceRoot virtualLocation : Path)
  /-- The classes come from a published build, found by wrapper name. -/
  | published (lookup : String → Option String)

/-- The directory of the virtual module. -/
def virtualDirectory (root virtualLocation : Path) : Path :=
  ((root.join virtualLocation).parent?).getD root

/-- **The module a class is imported from.**  A path of white space is none. -/
def ImportSource.resolve? (source : ImportSource) (e : Element) (name : String) : Option String :=
  match source with
  | samePackage root _ virtualLocation =>
    Path.relativeSpecifier (virtualDirectory root virtualLocation)
      (root.join e.source).normalize.stripExtension
  | published lookup =>
    match lookup name with
    | some path => if (Text.trim path.toList).isEmpty then none else some path
    | none => none

/-! ## Deriving wrappers -/

/-- What becomes of a tag that does not start with the configured prefix. -/
inductive PrefixPolicy where
  /-- it is refused -/
  | strict
  /-- the wrapper is named after the whole tag -/
  | passThrough
deriving DecidableEq, Inhabited, Repr

/-- How elements are named and where their classes are found. -/
structure WrapRules where
  /-- what is taken off the front of a tag -/
  lead : String
  policy : PrefixPolicy
  imports : ImportSource

namespace WrapRules

/-- The part of a tag that names the wrapper; nothing is left of a tag that is all prefix. -/
def stem? (r : WrapRules) (tag : String) : Option String :=
  match Text.dropLead? r.lead.toList tag.toList with
  | some [] => none
  | some rest => some (String.ofList rest)
  | none =>
    match r.policy with
    | .strict => none
    | .passThrough => some tag

/-- **The name of the wrapper of a tag.** -/
def wrapperName (r : WrapRules) (tag : String) : Except WrapError String :=
  match r.stem? tag with
  | none => .error (.prefixMismatch tag r.lead)
  | some stem =>
    let name := Text.pascalCase stem
    if Text.isComponentName name then .ok name else .error (.invalidName tag name)

/-- The events of an element with their handlers, added to those bound before; no handler may be
called like a property or like another handler. -/
def bindEvents (wrapper : String) (properties : List Property) :
    List BoundEvent → List Event → Except WrapError (List BoundEvent)
  | bound, [] => .ok bound
  | bound, e :: es =>
    let handler := Text.handlerName e.name
    if properties.any (·.name == handler) || bound.any (·.handler == handler) then
      .error (.repeatedProp wrapper handler)
    else bindEvents wrapper properties (bound ++ [⟨e, handler⟩]) es

/-- The wrapper of an element, given those derived before it. -/
def wrap (r : WrapRules) (before : List Wrapper) (e : Element) : Except WrapError Wrapper := do
  let name ← r.wrapperName e.tagName
  match before.find? (·.name == name) with
  | some first => throw (.duplicateName name first.tagName e.tagName)
  | none => pure ()
  let importPath ← match r.imports.resolve? e name with
    | some path => pure path
    | none => throw (.unresolvedImport e.tagName)
  let events ← bindEvents name e.properties [] e.events
  pure { name, tagName := e.tagName, className := e.className, exportKind := e.exportKind, importPath,
         properties := e.properties, events, slots := e.slots, description := e.description }

/-- The wrappers of a list of elements, added to those derived before. -/
def wrapAll (r : WrapRules) : List Wrapper → List Element → Except WrapError (List Wrapper)
  | before, [] => .ok before
  | before, e :: es => do
    let w ← r.wrap before e
    wrapAll r (before ++ [w]) es

/-- **The wrappers of a manifest**, one per element and in manifest order. -/
def wrappers (r : WrapRules) (m : Manifest) : Except WrapError (List Wrapper) :=
  r.wrapAll [] m.elements

end WrapRules

end ElementBindings
