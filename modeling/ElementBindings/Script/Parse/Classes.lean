import ElementBindings.Script.Parse.Expressions

/-!
# Script/Parse/Classes — functions and classes

A function keeps the type of its first parameter, that of its result, and the statements of its
body; a class keeps its members.  A word such as `static` or `get` qualifies a member only where
another name follows, and is the name of the member otherwise.
-/

namespace ElementBindings.Script

open Parse

variable (rec : Rec)

/-! ## Functions -/

/-- Statements up to a closing brace. -/
def statementsInBraces : Parse (List Statement) := do
  expect "\x7b"
  let body ← collect do
    if ← at? "\x7d" then return none
    return some (← rec .statement)
  expect "\x7d"
  return body

/-- **The body of a function.** -/
def functionBody (async generator : Bool) : Parse (List Statement) :=
  inFunction async generator (statementsInBraces rec)

/-- **A function from its type parameters on.**  Among types, a declaration may do without a body. -/
def functionTail (async generator : Bool) : Parse FunctionTail :=
  inFunction async generator do
    typeParameters rec
    let parameter ← parameters rec
    let result ← resultAnnotation? rec
    if ← at? "\x7b" then return ⟨parameter, result, ← rec (.functionBody async generator)⟩
    if !(← typed) then failure
    endStatement
    return ⟨parameter, result, []⟩

/-- What the `return` statements among some statements return. -/
def returnedValues (body : List Statement) : List Expr :=
  body.filterMap fun
    | .returns e => e
    | _ => none

/-! ## Modifiers -/

/-- The words that may qualify a member of a class. -/
def memberModifiers (typed : Bool) : List String :=
  if typed then
    ["abstract", "accessor", "async", "const", "declare", "export", "in", "out", "public", "private",
      "protected", "readonly", "static", "override"]
  else ["accessor", "async", "static"]

/-- Whether a modifier may stand before the token. -/
def followsModifier : Parse Bool := do
  if ← atMemberName then return true
  return (← at? "\x7b") || (← at? "*") || (← at? "...")

/-- The modifier at hand, given those before it; only a second `static` is a name. -/
def modifier? (seen : List String) : Parse (Option String) := do
  match ← wordAtHand? with
  | none => return none
  | some s =>
    if !(memberModifiers (← typed)).contains s then return none
    if s == "static" then
      if seen.contains s || (← afterNext (at? "\x7b")) then return none
      if !(← afterNext followsModifier) then return none
    else if !(← afterNext (do return !(← newline) && (← followsModifier))) then return none
    bump
    return some s

/-- The modifiers at hand, at most a given number. -/
def modifiersUpTo : Nat → List String → Parse (List String)
  | 0, _ => failure
  | fuel + 1, seen => do
    match ← modifier? seen with
    | some s => modifiersUpTo fuel (s :: seen)
    | none => return seen

/-- Who may use a member with the given modifiers. -/
def accessOf (modifiers : List String) : Access :=
  if modifiers.contains "private" then .itself
  else if modifiers.contains "protected" then .subclasses
  else .everyone

/-! ## Members -/

/-- A block that runs when the class is made. -/
def staticBlock : Parse ClassMember := do
  expectWord "static"
  discard (rec (.functionBody true false))
  return .other

/-- A method from its parameters on. -/
def methodTail (head : MemberHead) (kind : MethodKind) (async generator : Bool) :
    Parse ClassMember := do
  let f ← rec (.functionTail async generator)
  return .method head ⟨kind, f.result, f.parameter, returnedValues f.body⟩

/-- A field from its type on. -/
def fieldTail (definite isAccessor : Bool) : Parse FieldBody := do
  let type ← annotation? rec
  let initial ← if ← eat "=" then
      let e ← inFunction false false
        (withText (if isAccessor then rec (.assignment true) else rec .expression))
      pure (some e)
    else pure none
  endStatement
  return ⟨type, initial, definite⟩

/-- The kind of the method that is about to be named. -/
def methodKind : Parse MethodKind := do
  let kind := match ← wordAtHand? with
    | some "get" => MethodKind.get
    | some "set" => .set
    | _ => .plain
  if kind == .plain || !(← afterNext atMemberName) then return .plain
  bump
  return kind

/-- Whether the token is a string. -/
def atString : Parse Bool := do
  match (← token).kind with
  | .string _ => return true
  | _ => return false

/-- A member of a class with the decorators before it.  They do not count on a member that is named
by a string, unless it is half of an accessor pair. -/
def decoratedMember (decorators : List Expr) : Parse ClassMember := do
  let modifiers ← modifiersUpTo ((← read).source.size + 2) []
  if (← word? "static") && (← afterNext (at? "\x7b")) then return (← staticBlock rec)
  if ← typed then
    if ← opensIndexSignature then
      indexSignature rec
      return .other
  let async := modifiers.contains "async"
  let isAccessor := modifiers.contains "accessor"
  let generator ← eat "*"
  let kind ← if async || generator || isAccessor then pure .plain else methodKind
  let decorators := if kind == .plain && (← atString) then [] else decorators
  let (key, computed) ← memberKey rec
  let head : MemberHead :=
    ⟨decorators, modifiers.contains "static", accessOf modifiers, key, computed⟩
  let definite ← if ← typed then
      discard (eat "?")
      eat "!"
    else pure false
  if isAccessor then return .accessor head (← fieldTail rec definite true)
  if async || generator || kind != .plain || (← at? "(") || (← at? "<") then
    methodTail rec head kind async generator
  else return .field head (← fieldTail rec definite false)

/-- A member of a class, after the semicolons before it. -/
def classMember? : Parse (Option ClassMember) := do
  repeatWhile (eat ";")
  if ← at? "\x7d" then return none
  return some (← decoratedMember rec (← decorators rec))

/-! ## Classes -/

/-- What a class extends and implements. -/
def heritage : Parse Unit :=
  repeatWhile do
    if ← eatWord "extends" then
      repeatWhile do
        discard (rec .operand)
        if (← typed) && (← atOpenAngle) then typeArguments rec
        eat ","
      return true
    if (← typed) && (← eatWord "implements") then
      repeatWhile do
        typeReference rec
        eat ","
      return true
    return false

/-- **A class from its name on.**  Its lead starts where the statement before it ended. -/
def classTail (decorators : List Expr) : Parse ClassDecl := do
  let name ← if (← atIdentifier) && !(← word? "implements") then some <$> identifier else pure none
  typeParameters rec
  heritage rec
  let start := (← token).start
  let lead ← textBetween (← get).statementEnd start
  expect "\x7b"
  let members ← collect (classMember? rec)
  expect "\x7d"
  return ⟨name, decorators, members, lead, ← textBetween start (← get).previous⟩

end ElementBindings.Script
