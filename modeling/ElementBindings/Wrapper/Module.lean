import ElementBindings.Wrapper.Imports
import ElementBindings.Wrapper.Props

/-!
# Wrapper/Module — the module of the wrapping components

The wrapper module imports the element classes, declares three helpers, registers the classes that
it can name, and exports one component per element.  A component takes its own props apart, hands
each to the element when it changes, and listens for each event.
-/

namespace ElementBindings

/-- The first line of every generated file. -/
def generatedHeader : String :=
  "// Generated by facade from custom element sources. Do not edit.\n"

/-! ## Helpers -/

/-- Lines as text, each ended. -/
def textOfLines (lines : List String) : String := String.join (lines.map (· ++ "\n"))

/-- Lines one step further in. -/
def indented (lines : List String) : List String := lines.map ("  " ++ ·)

/-- Lines in braces behind a head. -/
def block (head : String) (body : List String) : List String :=
  (head ++ " \x7b") :: indented body ++ ["\x7d"]

/-- The two branches of a condition. -/
def branches (head : String) (yes no : List String) : List String :=
  (head ++ " \x7b") :: indented yes ++ ["\x7d else \x7b"] ++ indented no ++ ["\x7d"]

/-- The helper that mirrors a value to an attribute. -/
def setAttributeHelper : List String :=
  block "function setAttribute(element: HTMLElement, name: string, value: unknown): void"
    (branches "if (value === undefined || value === null || value === false)"
      ["element.removeAttribute(name);"]
      ["element.setAttribute(name, value === true ? \"\" : String(value));"])

/-- The helper that assigns a property, and takes back only what it assigned. -/
def setPropertyHelper : List String :=
  block ("function setProperty<E extends HTMLElement, K extends keyof E>"
      ++ "(element: E, name: K, value: E[K] | undefined): void")
    (["let assigned = assignedProperties.get(element);"]
    ++ block "if (value === undefined)"
      (block "if (assigned?.delete(name))" ["element[name] = undefined as E[K];"] ++ ["return;"])
    ++ block "if (!assigned)"
      ["assigned = new Set();", "assignedProperties.set(element, assigned);"]
    ++ ["assigned.add(name);", "element[name] = value;"])

/-- The helper that registers a class under its tag, once. -/
def defineElementHelper : List String :=
  block "function defineElement(tagName: string, constructor: CustomElementConstructor): void"
    (block "if (typeof customElements !== \"undefined\" && !customElements.get(tagName))"
      ["customElements.define(tagName, constructor);"])

/-- The helper declarations of a wrapper module. -/
def helpers : String :=
  textOfLines (setAttributeHelper
    ++ ["", "const assignedProperties = new WeakMap<HTMLElement, Set<PropertyKey>>();", ""]
    ++ setPropertyHelper ++ [""] ++ defineElementHelper)

/-! ## Local names -/

/-- The names every component body binds itself. -/
def componentBindings : List String :=
  ["props", "forwardedRef", "elementRef", "element", "listener", "event", "rest", "children"]

/-- The names a prop is bound to when its own is taken, in order of preference. -/
def propAlias (key : String) : Nat → String
  | 0 => key ++ "Prop"
  | n + 1 => key ++ "Prop" ++ toString (n + 2)

/-- The names a component body relies on. -/
def Wrapper.reserved (w : Wrapper) (element : String) : List String :=
  componentBindings ++ moduleBindings ++ [element, w.name]

/-- The local names of props, given the names bound before; a reserved prop gets a free name. -/
def bindLocals (reserved : List String) : List String → List String → List (String × String)
  | _, [] => []
  | taken, key :: keys =>
    if reserved.contains key then
      let localName := Text.firstFree (reserved ++ taken) (propAlias key)
      (key, localName) :: bindLocals reserved (localName :: taken) keys
    else (key, key) :: bindLocals reserved taken keys

/-- **Each prop of a component with the name its body knows it by.** -/
def Wrapper.propLocals (w : Wrapper) (element : String) : List (String × String) :=
  let reserved := w.reserved element
  bindLocals reserved (w.keys.filter (!reserved.contains ·)) w.keys

/-! ## Components -/

/-- A prop as it is taken out of the props of a component. -/
def propBinding : String × String → String
  | (key, localName) => if key = localName then localName else key ++ ": " ++ localName

/-- The first statement of a component body, for props with given local names. -/
def destructuring (locals : List (String × String)) : String :=
  "const \x7b " ++ ", ".intercalate (locals.map propBinding ++ ["children", "...rest"])
    ++ " \x7d = props;"

/-- The statement that hands a property to the element; a reflected one goes through its attribute,
so that a flag is present or absent and not spelled out. -/
def Property.assignment (p : Property) (localName : String) : String :=
  match p.attributeName, p.reflects with
  | some name, true => "setAttribute(element, " ++ Text.quoted name ++ ", " ++ localName ++ ")"
  | _, _ => "setProperty(element, \"" ++ p.name ++ "\", " ++ localName ++ ")"

/-- The effect that keeps a property of the element up to date. -/
def propertyEffect (p : Property) (localName : String) : List String :=
  ["", "React.useLayoutEffect(() => \x7b",
    "  const element = elementRef.current;",
    "  if (element) " ++ p.assignment localName ++ ";",
    "\x7d, [" ++ localName ++ "]);"]

/-- The effect that listens for an event. -/
def eventEffect (e : BoundEvent) (handler : String) : List String :=
  let argument := if e.detail.isSome then "event as " ++ e.type else "event"
  let name := Text.quoted e.name
  ["", "React.useEffect(() => \x7b",
    "  const element = elementRef.current;",
    "  if (!element || !" ++ handler ++ ") return;",
    "  const listener = (event: Event) => " ++ handler ++ "(" ++ argument ++ ");",
    "  element.addEventListener(" ++ name ++ ", listener);",
    "  return () => element.removeEventListener(" ++ name ++ ", listener);",
    "\x7d, [" ++ handler ++ "]);"]

/-- A line of a component body; an empty line stays empty. -/
def bodyLine (line : String) : String := if line.isEmpty then "\n" else "  " ++ line ++ "\n"

/-- The body of a component, line by line. -/
def Wrapper.bodyLines (w : Wrapper) (element : String) : List String :=
  let locals := w.propLocals element
  [destructuring locals,
    "const elementRef = React.useRef<" ++ element ++ " | null>(null);", "",
    "React.useImperativeHandle(forwardedRef, () => elementRef.current as " ++ element ++ ");"]
  ++ (List.zipWith (fun p l => propertyEffect p l.2) w.properties locals).flatten
  ++ (List.zipWith (fun e l => eventEffect e l.2) w.events
      (locals.drop w.properties.length)).flatten
  ++ ["", "return React.createElement(" ++ Text.quoted w.tagName
      ++ ", \x7b ...rest, ref: elementRef \x7d, children);"]

/-- **The declarations of one component**, for an element of the given type. -/
def Wrapper.component (w : Wrapper) (element : String) : String :=
  w.doc ++ w.propsDeclaration ++ "\n" ++ w.doc
  ++ "export const " ++ w.name ++ " = React.forwardRef<" ++ element ++ ", " ++ w.propsType
  ++ ">(function " ++ w.name ++ "(props, forwardedRef) \x7b\n"
  ++ String.join ((w.bodyLines element).map bodyLine)
  ++ "\x7d);\n\n" ++ w.name ++ ".displayName = \"" ++ w.name ++ "\";\n"

/-! ## The module -/

/-- The registration of the wrapper at a place in the list.  A class that is not exported registers
itself when its module is imported. -/
def registration (plan : ImportPlan) (w : Wrapper) (i : Nat) : String :=
  match plan.local? i with
  | some className => "defineElement(" ++ Text.quoted w.tagName ++ ", " ++ className ++ ");\n"
  | none => ""

/-- **The text of the wrapper module**, with the components in the order given. -/
def wrapperModule (ws : List Wrapper) : String :=
  let plan := ImportPlan.ofWrappers id ws
  generatedHeader ++ "import * as React from \"react\";\n" ++ plan.render .value ++ "\n" ++ helpers
  ++ "\n" ++ String.join (ws.zipIdx.map fun (w, i) => registration plan w i)
  ++ String.join (ws.zipIdx.map fun (w, i) => "\n" ++ w.component (plan.elementType i))

end ElementBindings
