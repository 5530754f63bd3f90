import ElementBindings.Element.Dispatch
import ElementBindings.Element.Options
import ElementBindings.Element.Slots
import ElementBindings.Text.Case
import ElementBindings.Text.Names

/-!
# Element/Surface — what a module shows of its classes

The surface of a class is read member by member into a draft.  A property is declared by a decorator
on a field or on half of an accessor pair, or by an entry of a static `properties` object, which
takes its type and its initial value from an undecorated member of that name.  A class that is
exported by a later statement is as exported as one that is exported in place.
-/

namespace ElementBindings

open Script

/-! ## Members -/

/-- A member that may be a property, as it is declared. -/
structure Declared where
  name : String
  /-- the declared type, as written -/
  type : Option String
  /-- the initializer, as written -/
  initial : Option String
  /-- the type of the initializer, if it is a literal -/
  literalType : Option String
  /-- marked as always present -/
  definite : Bool
deriving DecidableEq, Inhabited, Repr

/-- A member that only has a name. -/
def Declared.bare (name : String) : Declared := ⟨name, none, none, none, false⟩

/-- **The property that a member is**, under its options.  Of its types, the declared one counts
before the constructor of the options, and that one before the type of a literal. -/
def Declared.property (d : Declared) (o : PropertyOptions) : Property :=
  let attributeName := match o.attributeOption with
    | .lowerCase => some (Text.lowerString d.name)
    | .named s => some s
    | .disabled => none
  let type := d.type.map Text.trimmed <|> o.constructorName.bind typeOfConstructor? <|> d.literalType
  { name := d.name
    type := type.getD "unknown"
    required := d.definite && d.initial.isNone
    defaultValue := d.initial
    reflects := o.reflect && attributeName.isSome
    attributeName := attributeName }

/-- The name of a member that may be a property: a public one that can be written without quotes. -/
def publicName? (h : MemberHead) : Option String :=
  if h.computed || h.key.isPrivate || h.access != .everyone then none
  else h.key.name?.filter Text.isBindable

/-- The entries of a static `properties` object. -/
def staticProperties (e : Expr) : List (String × PropertyOptions) :=
  ((objectMembers? e).getD []).filterMap fun
    | .property key value => (key.name?.filter Text.isBindable).map (·, optionsOf value)
    | .spread _ => none

/-! ## Drafts -/

/-- What has been read of the members of a class. -/
structure Draft where
  /-- the entries of static `properties` objects -/
  staticOptions : List (String × PropertyOptions)
  /-- the entries of static `events` arrays -/
  staticEvents : List String
  /-- the members with options, internal ones included -/
  decorated : List (Declared × PropertyOptions)
  /-- the members without options; of one name, the first counts -/
  undecorated : List Declared
  /-- the types that accessor pairs state; of one name, the first counts -/
  accessorTypes : List (String × String)

namespace Draft

/-- The draft of a class without members. -/
def empty : Draft := ⟨[], [], [], [], []⟩

/-- Takes in a static field. -/
def addStaticField (d : Draft) (h : MemberHead) (b : FieldBody) : Draft :=
  match h.key.name?, b.initial with
  | some "properties", some (e, _) => { d with staticOptions := d.staticOptions ++ staticProperties e }
  | some "events", some (e, _) => { d with staticEvents := d.staticEvents ++ arrayStrings e }
  | _, _ => d

/-- Takes in a static method. -/
def addStaticMethod (d : Draft) (h : MemberHead) (b : MethodBody) : Draft :=
  if h.key.name? = some "properties" then
    { d with staticOptions := d.staticOptions ++ b.returns.flatMap staticProperties }
  else d

/-- The field that a member declares. -/
def declared (name : String) (b : FieldBody) : Declared :=
  ⟨name, b.type, b.initial.map (·.2), b.initial.bind fun (e, _) => literalType? e, b.definite⟩

/-- Takes in a field; it stands in for any undecorated member of its name. -/
def addField (d : Draft) (h : MemberHead) (b : FieldBody) : Draft :=
  match publicName? h with
  | none => d
  | some name =>
    match memberOptions? h.decorators with
    | some o => { d with decorated := d.decorated ++ [(declared name b, o)] }
    | none => { d with undecorated := declared name b :: d.undecorated }

/-- Takes in an accessor field, which is a property only by a decorator. -/
def addAccessorField (d : Draft) (h : MemberHead) (b : FieldBody) : Draft :=
  match publicName? h, memberOptions? h.decorators with
  | some name, some o => { d with decorated := d.decorated ++ [(declared name b, o)] }
  | _, _ => d

/-- The type that half of an accessor pair states. -/
def halfType? (b : MethodBody) : Option String :=
  if b.kind = .get then b.result else b.parameter

/-- Takes in half of an accessor pair.  The first half of a name that has options is the property;
the first half that states a type gives it. -/
def addHalf (d : Draft) (h : MemberHead) (b : MethodBody) : Draft :=
  if b.kind = .plain then d
  else match publicName? h with
  | none => d
  | some name =>
    let d := match halfType? b with
      | some t => { d with accessorTypes := d.accessorTypes ++ [(name, t)] }
      | none => d
    if d.decorated.any (·.1.name == name) then d
    else match memberOptions? h.decorators with
    | some o => { d with decorated := d.decorated ++ [(.bare name, o)] }
    | none =>
      if d.undecorated.any (·.name == name) then d
      else { d with undecorated := .bare name :: d.undecorated }

/-- Takes in a member. -/
def add (d : Draft) : ClassMember → Draft
  | .field h b => if h.isStatic then d.addStaticField h b else d.addField h b
  | .accessor h b => if h.isStatic then d else d.addAccessorField h b
  | .method h b => if h.isStatic then d.addStaticMethod h b else d.addHalf h b
  | .other => d

/-- The draft of some members. -/
def ofMembers (members : List ClassMember) : Draft := members.foldl add empty

/-- A member with the type that accessors state, if it has none of its own. -/
def typed (d : Draft) (m : Declared) : Declared :=
  { m with type := m.type <|> d.accessorTypes.lookup m.name }

/-- The member that a static entry is about. -/
def undecorated? (d : Draft) (name : String) : Declared :=
  match d.undecorated.find? (·.name == name) with
  | some m => d.typed m
  | none => .bare name

/-- The properties that decorators declare. -/
def decoratedProperties (d : Draft) : List Property :=
  d.decorated.filterMap fun (m, o) => if o.state then none else some ((d.typed m).property o)

/-- Properties with one more static entry taken in, unless the name is there already. -/
def addStatic (d : Draft) (ps : List Property) (entry : String × PropertyOptions) : List Property :=
  if entry.2.state || ps.any (·.name == entry.1) then ps
  else ps ++ [(d.undecorated? entry.1).property entry.2]

/-- **The properties of a class**: the decorated ones, then those of static entries. -/
def properties (d : Draft) : List Property := d.staticOptions.foldl d.addStatic d.decoratedProperties

end Draft

/-! ## Classes -/

/-- The public surface of a class. -/
structure ClassSurface where
  name : String
  exportKind : ExportKind
  /-- the tag that a decorator registers the class under -/
  decoratorTag : Option String
  properties : List Property
  /-- the entries of static `events` arrays -/
  staticEvents : List String
  /-- the events that the body dispatches -/
  dispatched : List Event
  /-- the slots of the templates in the body -/
  templateSlots : List String
  doc : ClassDoc
deriving DecidableEq, Inhabited, Repr

/-- **The surface of a class** that has a name. -/
def ClassSurface.of? (exportKind : ExportKind) (c : ClassDecl) : Option ClassSurface :=
  c.name.map fun name =>
    let draft := Draft.ofMembers c.members
    { name := name
      exportKind := exportKind
      decoratorTag := c.decorators.findSome? decoratorTag?
      properties := draft.properties
      staticEvents := draft.staticEvents
      dispatched := dispatchedEvents c.body
      templateSlots := ElementBindings.templateSlots c.body
      doc := ClassDoc.ofRegion c.lead }

/-- The class that a statement declares, and how it exports it. -/
def declaredClass? : Statement → Option (ExportKind × ClassDecl)
  | .classDecl c => some (.none, c)
  | .exportClass c => some (.named, c)
  | .exportDefaultClass c => some (.byDefault, c)
  | _ => none

/-! ## Exports -/

/-- The export that an entry of an export list makes; an entry with a new name makes none. -/
def exportOf? (n : ExportName) : Option (String × ExportKind) :=
  if n.exported = "default" then some (n.localName, .byDefault)
  else if n.exported = n.localName then some (n.localName, .named)
  else none

/-- The exports that a statement makes of what stands elsewhere. -/
def laterExports : Statement → List (String × ExportKind)
  | .exportNames names false => names.filterMap exportOf?
  | .exportDefault (.identifier s) => [(s, .byDefault)]
  | _ => []

/-- Exports the first class of a name, unless it is exported already. -/
def exportFirst (name : String) (kind : ExportKind) : List ClassSurface → List ClassSurface
  | [] => []
  | c :: cs =>
    if c.name = name then
      (if c.exportKind = .none then { c with exportKind := kind } else c) :: cs
    else c :: exportFirst name kind cs

/-! ## Registrations -/

/-- A class that is registered under a tag. -/
structure Registration where
  tag : String
  className : String
deriving DecidableEq, Inhabited, Repr

/-- Whether an expression is the registry: `customElements`, which may be reached from the global
object. -/
def isRegistry : Expr → Bool
  | .identifier s => s == "customElements"
  | .member (.identifier s) "customElements" => s == "window" || s == "globalThis"
  | _ => false

/-- The registration that an expression makes. -/
def registration? : Expr → Option Registration
  | .call (.member object "define") (.value (.string tag) :: .value (.identifier name) :: _) =>
    if isRegistry object then some ⟨tag, name⟩ else none
  | _ => none

mutual

/-- **The registrations that a statement makes**, also in blocks and under conditions. -/
def registrationsIn : Statement → List Registration
  | .expression e => (registration? e).toList
  | .ifElse consequent none => registrationsIn consequent
  | .ifElse consequent (some alternate) => registrationsIn consequent ++ registrationsIn alternate
  | .block body => registrationsInAll body
  | _ => []

/-- The registrations that statements make, in order. -/
def registrationsInAll : List Statement → List Registration
  | [] => []
  | s :: ss => registrationsIn s ++ registrationsInAll ss

end

/-! ## Modules -/

/-- The classes that a module declares, each as its own statement exports it. -/
def Script.Module.declared (m : Module) : List ClassSurface :=
  m.statements.filterMap fun s => (declaredClass? s).bind fun (kind, c) => ClassSurface.of? kind c

/-- What a module shows. -/
structure ModuleSurface where
  classes : List ClassSurface
  /-- the registrations made by calls, in order -/
  registrations : List Registration
deriving DecidableEq, Inhabited, Repr

/-- **The surface of a module.** -/
def ModuleSurface.of (m : Module) : ModuleSurface where
  classes :=
    (m.statements.flatMap laterExports).foldl (fun cs (name, kind) => exportFirst name kind cs)
      m.declared
  registrations := registrationsInAll m.statements

end ElementBindings
