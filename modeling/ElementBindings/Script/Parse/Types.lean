import ElementBindings.Script.Parse.Basic

/-!
# Script/Parse/Types — types

Types are passed over: what is kept of one is its text.  What is left to tell is where a type ends,
which takes the whole grammar of types.
-/

namespace ElementBindings.Script

open Parse

variable (rec : Rec)

/-! ## Annotations -/

/-- A type behind a colon, if there is one; its text. -/
def annotation? : Parse (Option String) := do
  if (← typed) && (← eat ":") then
    return some (← withText (rec .type)).2
  return none

/-- The type of a result, which may be a statement about a parameter. -/
def resultType : Parse Unit := do
  if ← atIdentifier then
    if ← afterNext (do return (← word? "is") && !(← newline)) then
      bump
      bump
  rec .type

/-- The type of a result behind a colon, if there is one; its text. -/
def resultAnnotation? : Parse (Option String) := do
  if (← typed) && (← eat ":") then
    return some (← withText (resultType rec)).2
  return none

/-! ## Type parameters and arguments -/

/-- The modifiers of a type parameter. -/
def typeParameterModifiers : Parse Unit :=
  repeatWhile do
    if (← word? "const") || (← word? "in") || (← word? "out") then
      if ← afterNext atName then
        bump
        return true
    return false

/-- A type parameter with its bound and its default. -/
def typeParameter : Parse Unit := do
  typeParameterModifiers
  discard name
  if ← eatWord "extends" then rec .type
  if ← eat "=" then rec .type

/-- The type parameters of a declaration, if it has some. -/
def typeParameters : Parse Unit := do
  if (← typed) && (← at? "<") then
    discard (bracketed "<" ">" (typeParameter rec))

/-- Type arguments. -/
def typeArguments : Parse Unit := do
  if !(← atOpenAngle) then failure
  replace (← token).asOpenAngle
  bump
  discard (commaSeparated ">" (rec .type))
  expect ">"

/-- The type arguments behind a type's name; they start on its line. -/
def typeArguments? : Parse Unit := do
  if !(← newline) && (← atOpenAngle) then typeArguments rec

/-! ## Parameters -/

/-- A parameter with its modifiers; the text of its type, unless it has a default. -/
def parameter : Parse (Option String) := do
  repeatWhile do
    if ← eat "@" then
      discard (withReader ({ · with decorator := true }) (rec .operand))
      return true
    if (← typed) && (← atModifier) then
      if ← afterNext (do return !(← newline) && ((← atName) || (← at? "[") || (← at? "\x7b"))) then
        bump
        return true
    return false
  rec .pattern
  if ← typed then discard (eat "?")
  let type ← annotation? rec
  if ← eat "=" then
    discard (inBrackets (rec (.assignment true)))
    return none
  return type

/-- A parameter in a list; a `this` and a rest do not count. -/
def parameterItem : Parse (Option (Option String)) := do
  if ← eat "..." then
    rec .pattern
    discard (annotation? rec)
    if ← eat "=" then discard (inBrackets (rec (.assignment true)))
    return none
  if (← typed) && (← word? "this") then
    bump
    discard (annotation? rec)
    return none
  return some (← parameter rec)

/-- The parameters of a function; the text of the first one's type. -/
def parameters : Parse (Option String) := do
  let items ← bracketed "(" ")" (parameterItem rec)
  return ((items.filterMap id).head?).join

/-! ## Function types -/

/-- Whether a parenthesis opens the parameters of a function type. -/
def opensParameters : Parse Bool := do
  let answer ← peek do
    bump
    if (← at? ")") || (← at? "...") then return true
    repeatWhile do
      if ← atModifier then
        if ← afterNext (do return !(← newline) && ((← atName) || (← at? "[") || (← at? "\x7b"))) then
          bump
          return true
      return false
    if (← atIdentifier) || (← word? "this") then bump
    else if (← at? "[") || (← at? "\x7b") then rec .pattern
    else failure
    if (← at? ":") || (← at? ",") || (← at? "?") || (← at? "=") then return true
    if ← eat ")" then at? "=>" else return false
  return answer == some true

/-- Whether a function type or a constructor type starts here. -/
def startsFunctionType : Parse Bool := do
  if (← at? "<") || (← word? "new") then return true
  if ← at? "(" then return (← opensParameters rec)
  if ← word? "abstract" then return (← afterNext (word? "new"))
  return false

/-- A function type or a constructor type. -/
def functionType : Parse Unit := do
  discard (eatWord "abstract")
  discard (eatWord "new")
  typeParameters rec
  discard (parameters rec)
  expect "=>"
  resultType rec

/-! ## Object types -/

/-- The name of a member: plain, private, a literal, or computed. -/
def memberKey : Parse (Key × Bool) := do
  match (← token).kind with
  | .name s =>
    bump
    return (.name s, false)
  | .privateName s =>
    bump
    return (.privateName s, false)
  | .string s =>
    bump
    return (.value (.string s), false)
  | .number | .bigint =>
    bump
    return (.value .number, false)
  | _ =>
    expect "["
    let e ← inBrackets (rec (.assignment true))
    expect "]"
    return (.value e, true)

/-- Whether a bracket opens an index signature. -/
def opensIndexSignature : Parse Bool := do
  if !(← at? "[") then return false
  afterNext do
    if (← at? "...") || (← at? "]") then return true
    if ← atModifier then
      if ← afterNext atIdentifier then return true
    if !(← atIdentifier) then return false
    bump
    if (← at? ":") || (← at? ",") then return true
    if ← eat "?" then
      return (← at? ":") || (← at? ",") || (← at? "]")
    return false

/-- The end of a member of an object type. -/
def endTypeMember : Parse Unit := do
  if !(← eat ",") then endStatement

/-- An index signature. -/
def indexSignature : Parse Unit := do
  discard (bracketed "[" "]" do
    discard identifier
    annotation? rec)
  if (← annotation? rec).isNone then failure
  endTypeMember

/-- The parameters and the result of a signature. -/
def signatureTail : Parse Unit := do
  typeParameters rec
  discard (parameters rec)
  discard (resultAnnotation? rec)

/-- A member of an object type. -/
def typeMember : Parse Unit := do
  if (← at? "(") || (← at? "<") then
    signatureTail rec
    endTypeMember
  else if (← word? "new") && (← afterNext (do return (← at? "(") || (← at? "<"))) then
    bump
    signatureTail rec
    endTypeMember
  else
    repeatWhile do
      if ← atModifier then
        if ← afterNext (do return !(← newline) && (← atMemberName)) then
          bump
          return true
      return false
    if ← opensIndexSignature then indexSignature rec
    else
      if (← word? "get") || (← word? "set") then
        if ← afterNext atMemberName then bump
      discard (memberKey rec)
      discard (eat "?")
      if (← at? "(") || (← at? "<") then signatureTail rec
      else discard (annotation? rec)
      endTypeMember

/-- The members of an object type, in braces. -/
def typeMembers : Parse Unit := do
  expect "\x7b"
  repeatWhile do
    if ← at? "\x7d" then return false
    typeMember rec
    return true
  expect "\x7d"

/-- Whether a brace opens a mapped type. -/
def opensMappedType : Parse Bool :=
  afterNext do
    if (← eat "+") || (← eat "-") then return (← word? "readonly")
    discard (eatWord "readonly")
    if !(← eat "[") then return false
    if !(← atName) then return false
    bump
    word? "in"

/-- A sign before a modifier of a mapped type, or the modifier alone. -/
def mappedModifier (modifier : Parse Bool) : Parse Unit := do
  if (← eat "+") || (← eat "-") then
    if !(← modifier) then failure
  else discard modifier

/-- A mapped type. -/
def mappedType : Parse Unit := do
  expect "\x7b"
  mappedModifier (eatWord "readonly")
  expect "["
  discard name
  expectWord "in"
  rec .type
  if ← eatWord "as" then rec .type
  expect "]"
  mappedModifier (eat "?")
  discard (annotation? rec)
  discard (eat ";" <||> eat ",")
  expect "\x7d"

/-! ## Names, tuples, templates -/

/-- A dotted name. -/
def dottedName : Parse Unit := do
  discard name
  repeatWhile do
    if ← eat "." then
      match (← token).kind with
      | .privateName _ => bump
      | _ => discard name
      return true
    return false

/-- A type that is imported where it is used. -/
def importedType : Parse Unit := do
  expectWord "import"
  expect "("
  rec .type
  if ← eat "," then
    if !(← at? ")") then
      discard (inBrackets (rec (.assignment true)))
      discard (eat ",")
  expect ")"
  repeatWhile do
    if ← eat "." then
      discard name
      return true
    return false
  typeArguments? rec

/-- Whether an element of a tuple has a label. -/
def atTupleLabel : Parse Bool := do
  let answer ← peek do
    discard (eat "...")
    discard name
    if ← eat "?" then at? ":" else at? ":"
  return answer == some true

/-- An element of a tuple. -/
def tupleElement : Parse Unit := do
  if ← atTupleLabel then
    discard (eat "...")
    discard name
    discard (eat "?")
    expect ":"
    discard (eat "...")
    rec .type
  else
    discard (eat "...")
    rec .type
    discard (eat "?")

/-- A template up to its end, with what stands in its substitutions. -/
def templateWith (substitution : Parse Unit) : Parse Unit :=
  repeatWhile do
    match (← token).kind with
    | .template true _ =>
      bump
      return false
    | .template false _ =>
      bump
      substitution
      if !(← at? "\x7d") then failure
      replace (← token).asTemplate
      return true
    | _ => failure

/-! ## Types -/

/-- Whether a type can start at the token. -/
def startsType : Parse Bool := do
  match (← token).kind with
  | .name s => return !reservedWords.contains s ||
      ["void", "null", "this", "typeof", "new", "true", "false", "import"].contains s
  | .string _ | .number | .bigint | .template .. => return true
  | .punct s =>
    if s == "-" then return (← afterNext (do return (← token).kind == .number))
    return ["\x7b", "[", "<", "|", "&", "*", "?", "!", "...", "("].contains s
  | _ => return false

/-- A type by its name, with its arguments. -/
def typeReference : Parse Unit := do
  dottedName
  typeArguments? rec

/-- A type that is not put together with an operator. -/
def plainType : Parse Unit := do
  match (← token).kind with
  | .string _ | .number | .bigint => bump
  | .template .. => templateWith (rec .type)
  | .punct "-" =>
    bump
    match (← token).kind with
    | .number | .bigint => bump
    | _ => failure
  | .punct "\x7b" => if ← opensMappedType then mappedType rec else typeMembers rec
  | .punct "[" => discard (bracketed "[" "]" (tupleElement rec))
  | .punct "(" =>
    bump
    rec .type
    expect ")"
  | .name "this" =>
    bump
    if (← word? "is") && !(← newline) then
      bump
      rec .type
  | .name "typeof" =>
    bump
    if ← word? "import" then importedType rec
    else
      dottedName
      typeArguments? rec
  | .name "import" => importedType rec
  | .name "asserts" =>
    if ← afterNext (do return (← atName) && !(← newline)) then
      bump
      bump
      if ← eatWord "is" then rec .type
    else typeReference rec
  | .name s =>
    if ["void", "null", "true", "false"].contains s then bump else typeReference rec
  | _ => failure

/-- A type with brackets behind it. -/
def postfixType : Parse Unit := do
  plainType rec
  repeatWhile do
    if ← newline then return false
    match (← token).kind with
    | .punct "!" =>
      bump
      return true
    | .punct "?" =>
      if ← afterNext startsType then return false
      bump
      return true
    | .punct "[" =>
      bump
      if ← startsType then rec .type
      expect "]"
      return true
    | _ => return false

/-- A type with words such as `keyof` before it. -/
def typeOperand : Parse Unit := do
  if (← eatWord "keyof") || (← eatWord "unique") || (← eatWord "readonly") then rec .typeOperand
  else if ← eatWord "infer" then
    discard name
    let conditionalHere := !(← read).noConditional
    discard (attempt do
      expectWord "extends"
      conditional false (rec .type)
      if conditionalHere && (← at? "?") then failure)
  else conditional true (postfixType rec)

/-- Types between operators, of which one may stand in front. -/
def joinedTypes (operator : String) (item : Parse Unit) : Parse Unit := do
  discard (eat operator)
  item
  repeatWhile do
    if ← eat operator then
      item
      return true
    return false

/-- **A type.** -/
def type : Parse Unit := do
  if ← startsFunctionType rec then functionType rec
  else
    joinedTypes "|" (joinedTypes "&" (rec .typeOperand))
    if !(← read).noConditional && !(← newline) then
      if ← eatWord "extends" then
        conditional false (rec .type)
        expect "?"
        conditional true (rec .type)
        expect ":"
        conditional true (rec .type)

end ElementBindings.Script
