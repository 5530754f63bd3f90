import ElementBindings.Element.Surface
import ElementBindings.Files.Access
import ElementBindings.Script.Module

/-!
# Element/Discovery — the elements that sources register

A class is registered by its decorator or by a call; both make one element, and each tag stands for
one element in the whole build.  What a class says about its events and slots in more than one way is
merged, the documentation first.
-/

namespace ElementBindings

/-! ## Errors -/

/-- Why the elements of a build cannot be found. -/
inductive ManifestError where
  | unreadable (path : Path) (fault : FileFault)
  | unparsable (path : Path)
  | invalidTag (tag : String) (path : Path)
  | conflict (tag : String) (first second : Path)
deriving DecidableEq, Repr

/-- What is said about a build whose elements cannot be found, without the fault of a file. -/
def ManifestError.summary : ManifestError → String
  | unreadable path _ => "Failed to read " ++ path.text
  | unparsable path => "Failed to parse " ++ path.text
  | invalidTag tag path =>
    "Invalid tag name <" ++ tag ++ "> in " ++ path.text
    ++ ": custom element names must contain a hyphen"
  | conflict tag first second =>
    "Tag <" ++ tag ++ "> is registered twice: " ++ first.text ++ " and " ++ second.text

/-- The fault of a file behind an error. -/
def ManifestError.fault? : ManifestError → Option FileFault
  | unreadable _ fault => some fault
  | _ => none

/-- What is said about a build whose elements cannot be found. -/
def ManifestError.message (e : ManifestError) : String :=
  match e.fault? with
  | some fault => e.summary ++ ": " ++ fault.message
  | none => e.summary

/-! ## Merging -/

/-- Events with one more sighting: a new name is added, a known one takes the detail type that it
lacks. -/
def addSighting (sighting : Event) : List Event → List Event
  | [] => [sighting]
  | e :: es =>
    if e.name = sighting.name then { e with detail := e.detail <|> sighting.detail } :: es
    else e :: addSighting sighting es

/-- Where a class speaks of its events: its documentation, its static entries, its dispatch sites. -/
def ClassSurface.sightings (c : ClassSurface) : List Event :=
  c.doc.events ++ c.staticEvents.map (⟨·, none⟩) ++ c.dispatched

/-- The events of a class. -/
def ClassSurface.events (c : ClassSurface) : List Event :=
  c.sightings.foldl (fun es e => addSighting e es) []

/-- The slots of a class: those of its documentation, then those of its templates that are new. -/
def ClassSurface.slots (c : ClassSurface) : List String :=
  c.templateSlots.foldl (fun slots slot => if slots.contains slot then slots else slots ++ [slot])
    c.doc.slots

/-- **The element that a class is**, under its tag. -/
def ClassSurface.element (c : ClassSurface) (tag : String) (source : Path) : Element where
  tagName := tag
  className := c.name
  exportKind := c.exportKind
  source := source
  properties := c.properties
  events := c.events
  slots := c.slots
  description := c.doc.description

/-! ## Sources -/

/-- The registration that the decorators of a class make. -/
def ClassSurface.registration? (c : ClassSurface) : Option Registration :=
  c.decoratorTag.map (⟨·, c.name⟩)

namespace ModuleSurface

/-- The registrations that decorators make. -/
def decoratorRegistrations (m : ModuleSurface) : List Registration :=
  m.classes.filterMap ClassSurface.registration?

/-- **All registrations of a module**: by decorators, then by calls that say something new. -/
def allRegistrations (m : ModuleSurface) : List Registration :=
  m.registrations.foldl (fun rs r => if rs.contains r then rs else rs ++ [r]) m.decoratorRegistrations

/-- The elements of a module, added to those found before. -/
def register (m : ModuleSurface) (path : Path) :
    List Element → List Registration → Except ManifestError (List Element)
  | found, [] => .ok found
  | found, r :: rs =>
    if !r.tag.toList.contains '-' then .error (.invalidTag r.tag path)
    else if found.any (·.tagName == r.tag) then .error (.conflict r.tag path path)
    else match m.classes.find? (·.name == r.className) with
      | none => register m path found rs
      | some c => register m path (found ++ [c.element r.tag path]) rs

/-- **The elements of a module**, one per registration of a class that it declares. -/
def elements (m : ModuleSurface) (path : Path) : Except ManifestError (List Element) :=
  m.register path [] m.allRegistrations

end ModuleSurface

/-- The surface of a source, unless it cannot be understood. -/
def ModuleSurface.ofSource? (path : Path) (source : String) : Option ModuleSurface :=
  (Script.Module.ofSource? (Script.Dialect.ofPath path) source).map ModuleSurface.of

/-- **The elements that a source registers.** -/
def elementsOf (path : Path) (source : String) : Except ManifestError (List Element) :=
  match ModuleSurface.ofSource? path source with
  | some m => m.elements path
  | none => .error (.unparsable path)

/-! ## Builds -/

/-- Elements added to those found before; each tag is free for one of them. -/
def addElements (path : Path) :
    List Element → List Element → Except ManifestError (List Element)
  | found, [] => .ok found
  | found, e :: es =>
    match found.find? (·.tagName == e.tagName) with
    | some first => .error (.conflict e.tagName first.source path)
    | none => addElements path (found ++ [e]) es

/-- The elements of some files, added to those found before. -/
def elementsOfFiles (t : FileTree) :
    List Element → List Path → Except ManifestError (List Element)
  | found, [] => .ok found
  | found, path :: paths => do
    let source ← (t.readText path).mapError (.unreadable path)
    elementsOfFiles t (← addElements path found (← elementsOf path source)) paths

/-- **The elements of a build**, file by file in the order given. -/
def Manifest.ofFiles (t : FileTree) (paths : List Path) : Except ManifestError Manifest :=
  (elementsOfFiles t [] paths).map (⟨·⟩)

end ElementBindings
