import ElementBindings.Text.Quoted
import ElementBindings.Wrapper.Basic

/-!
# Wrapper/Imports — which classes a generated file imports, and under which names

An `ImportPlan` has one group per module, in the order of first use, and one local name per wrapper
whose class is exported.  A class keeps its own name where that name is free, and otherwise gets a
suffix; the same class of the same module is bound once.
-/

namespace ElementBindings

/-- The names a wrapper module declares besides its components and classes. -/
def moduleBindings : List String :=
  ["React", "setAttribute", "setProperty", "defineElement", "assignedProperties"]

/-! ## Groups -/

/-- What is imported from one module. -/
structure ImportGroup where
  specifier : String
  /-- the local name of the default export -/
  byDefault : Option String
  /-- the exported classes with their local names -/
  named : List (String × String)
deriving DecidableEq, Inhabited, Repr

namespace ImportGroup

/-- The group of a module from which nothing is imported yet. -/
def empty (specifier : String) : ImportGroup := ⟨specifier, none, []⟩

/-- The local names a group binds. -/
def locals (g : ImportGroup) : List String := g.byDefault.toList ++ g.named.map (·.2)

/-- The name under which a group already imports a class. -/
def local? (g : ImportGroup) : ExportKind → String → Option String
  | .named, className => g.named.lookup className
  | .byDefault, _ => g.byDefault
  | .none, _ => none

/-- The group with a class bound to a local name. -/
def bind (g : ImportGroup) (className localName : String) : ExportKind → ImportGroup
  | .named => { g with named := g.named ++ [(className, localName)] }
  | .byDefault => { g with byDefault := some localName }
  | .none => g

end ImportGroup

/-! ## Plans -/

/-- The imports of a generated file. -/
structure ImportPlan where
  groups : List ImportGroup
  /-- the local class name of each wrapper, where its class is exported -/
  locals : List (Option String)
deriving DecidableEq, Inhabited, Repr

/-- The names a class is bound to, in order of preference. -/
def classAlias (className : String) : Nat → String
  | 0 => className
  | 1 => className ++ "Element"
  | n + 2 => className ++ "Element" ++ toString (n + 2)

namespace ImportPlan

/-- The plan of a file without components. -/
def empty : ImportPlan := ⟨[], []⟩

/-- The group of a module, empty when nothing is imported from it yet. -/
def group (p : ImportPlan) (specifier : String) : ImportGroup :=
  (p.groups.find? (·.specifier == specifier)).getD (.empty specifier)

/-- The groups of a plan with one put in the place of the group of its module, or at the end. -/
def put (p : ImportPlan) (g : ImportGroup) : List ImportGroup :=
  if p.groups.any (·.specifier == g.specifier) then
    p.groups.map fun h => if h.specifier == g.specifier then g else h
  else p.groups ++ [g]

/-- **A plan with one more wrapper**, whose class comes from the module `specifier`; a name that is
reserved or bound before is avoided. -/
def add (reserved : List String) (p : ImportPlan) (specifier : String) (w : Wrapper) : ImportPlan :=
  let g := p.group specifier
  match w.exportKind, g.local? w.exportKind w.className with
  | .none, _ => ⟨p.put g, p.locals ++ [none]⟩
  | _, some localName => ⟨p.put g, p.locals ++ [some localName]⟩
  | kind, none =>
    let used := reserved ++ p.groups.flatMap (·.locals)
    let localName := Text.firstFree used (classAlias w.className)
    ⟨p.put (g.bind w.className localName kind), p.locals ++ [some localName]⟩

/-- **The plan of a list of wrappers**, their import paths written as `specifier` says.  No class is
bound to the name of a wrapper or of a helper. -/
def ofWrappers (specifier : String → String) (ws : List Wrapper) : ImportPlan :=
  let reserved := ws.map (·.name) ++ moduleBindings
  ws.foldl (fun p w => p.add reserved (specifier w.importPath) w) empty

/-- The local class name of the wrapper at a place in the list. -/
def local? (p : ImportPlan) (i : Nat) : Option String := (p.locals[i]?).join

/-- The type of the element behind a wrapper; a class that is not exported has the type of all
elements. -/
def elementType (p : ImportPlan) (i : Nat) : String := (p.local? i).getD "HTMLElement"

end ImportPlan

/-! ## Statements -/

/-- Whether imports bind values or types. -/
inductive ImportStyle where
  | value
  | type
deriving DecidableEq, Repr

/-- The words an import statement opens with. -/
def ImportStyle.keyword : ImportStyle → String
  | value => "import"
  | type => "import type"

/-- A class in the braces of an import statement. -/
def importName : String × String → String
  | (className, localName) =>
    if className = localName then className else className ++ " as " ++ localName

/-- **The import statements of a group** — the default export first.  A group that binds nothing is
imported for its effect, unless only types are wanted. -/
def ImportGroup.render (style : ImportStyle) (g : ImportGroup) : String :=
  let source := Text.quoted g.specifier ++ ";\n"
  let fromDefault := match g.byDefault with
    | some localName => style.keyword ++ " " ++ localName ++ " from " ++ source
    | none => ""
  let fromNamed :=
    if g.named.isEmpty then ""
    else style.keyword ++ " \x7b " ++ ", ".intercalate (g.named.map importName) ++ " \x7d from "
      ++ source
  let bare :=
    if g.locals.isEmpty && style == .value then "import " ++ source else ""
  fromDefault ++ fromNamed ++ bare

/-- The import statements of a plan. -/
def ImportPlan.render (style : ImportStyle) (p : ImportPlan) : String :=
  String.join (p.groups.map (·.render style))

end ElementBindings
