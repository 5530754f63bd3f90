import ElementBindings.Script.Parse.Patterns

/-!
# Script/Parse/Expressions — expressions

From the inside out: primary expressions, what is accessed or called on them, the operators by
precedence, and arrow functions, conditions and assignments.  A parenthesis may open an arrow
function; where that cannot be told, the function is tried first.
-/

namespace ElementBindings.Script

open Parse

variable (rec : Rec)

/-! ## Literals -/

/-- An element of an array literal; there may be none before a comma. -/
def arrayElement : Parse Item := do
  if ← at? "," then return .hole
  if ← eat "..." then return .spread (← rec (.assignment true))
  return .value (← rec (.assignment true))

/-- An argument of a call. -/
def argument : Parse Item := do
  if ← eat "..." then return .spread (← rec (.assignment true))
  return .value (← rec (.assignment true))

/-- The arguments of a call. -/
def arguments : Parse (List Item) := inBrackets (bracketed "(" ")" (argument rec))

/-- A method of an object literal, from its name on. -/
def objectMethod (async generator : Bool) : Parse ObjectMember := do
  let (key, _) ← memberKey rec
  discard (rec (.functionTail async generator))
  return .property key .other

/-- A member of an object literal. -/
def objectMember : Parse ObjectMember := do
  if ← eat "..." then return .spread (← rec (.assignment true))
  if ← word? "async" then
    if ← afterNext (do return !(← newline) && ((← atMemberName) || (← at? "*"))) then
      bump
      let generator ← eat "*"
      return (← objectMethod rec true generator)
  if ← eat "*" then return (← objectMethod rec false true)
  if (← word? "get") || (← word? "set") then
    if ← afterNext atMemberName then
      bump
      return (← objectMethod rec false false)
  if ← atIdentifier then
    if ← afterNext (do return !((← at? ":") || (← at? "(") || (← at? "<"))) then
      let s ← name
      if ← eat "=" then discard (rec (.assignment true))
      return .property (.name s) (.identifier s)
  let (key, _) ← memberKey rec
  if (← at? "(") || (← at? "<") then
    discard (rec (.functionTail false false))
    return .property key .other
  expect ":"
  return .property key (← rec (.assignment true))

/-- A template literal; its value, when nothing is substituted. -/
def templateLiteral : Parse Expr := do
  let plain := match (← token).kind with
    | .template true value => value
    | _ => none
  templateWith (do discard (inBrackets (rec .expression)))
  return .template plain

/-- A parenthesised expression; there has to be one. -/
def parenthesized : Parse Expr := do
  let items ← inBrackets (bracketed "(" ")" (rec (.assignment true)))
  match items with
  | [] => failure
  | [e] => return .parenthesized e
  | _ => return .parenthesized .other

/-! ## Primary expressions -/

/-- A function, from the word that introduces it on. -/
def functionExpression (async : Bool) : Parse Expr := do
  expectWord "function"
  let generator ← eat "*"
  if ← atIdentifier then bump
  discard (rec (.functionTail async generator))
  return .other

/-- The decorators at hand. -/
def decorators : Parse (List Expr) :=
  collect do
    if ← eat "@" then
      return some (← withReader ({ · with decorator := true }) (rec .operand))
    return none

/-- The arguments of an import: a module, and what it is asked for besides its path. -/
def importArguments : Parse Unit := do
  expect "("
  let items ← inBrackets (commaSeparated ")" (rec (.assignment true)))
  expect ")"
  if items.isEmpty || 2 < items.length then failure

/-- An import that is an expression. -/
def importExpression : Parse Expr := do
  expectWord "import"
  if ← eat "." then
    if ← eatWord "meta" then return .other
    if !((← eatWord "source") || (← eatWord "defer")) then failure
  importArguments rec
  return .other

/-- Whether a function that is asynchronous starts here. -/
def atAsyncFunction : Parse Bool := do
  if ← word? "async" then afterNext (do return (← word? "function") && !(← newline))
  else return false

/-- An expression that starts with a word. -/
def wordExpression (s : String) : Parse Expr := do
  match s with
  | "function" => functionExpression rec false
  | "class" =>
    bump
    discard (rec (.classTail []))
    return .other
  | "this" | "super" =>
    bump
    return .other
  | "null" =>
    bump
    return .null
  | "true" =>
    bump
    return .boolean true
  | "false" =>
    bump
    return .boolean false
  | "import" => importExpression rec
  | _ =>
    if ← atAsyncFunction then
      bump
      functionExpression rec true
    else return .identifier (← identifier)

/-- A regular expression. -/
def patternLiteral : Parse Expr := do
  let t := (← token).asPattern
  if t.kind == .invalid then failure
  replace t
  bump
  return .other

/-- An expression without operators, accesses or calls; `new` has a production of its own. -/
def primary : Parse Expr := do
  match (← token).kind with
  | .name s => wordExpression rec s
  | .string value =>
    bump
    return .string value
  | .number =>
    bump
    return .number
  | .bigint =>
    bump
    return .other
  | .template .. => templateLiteral rec
  | .punct "(" => parenthesized rec
  | .punct "[" => return .array (← inBrackets (bracketed "[" "]" (arrayElement rec)))
  | .punct "\x7b" => return .object (← inBrackets (bracketed "\x7b" "\x7d" (objectMember rec)))
  | .punct "/" | .punct "/=" => patternLiteral
  | .punct "@" =>
    let ds ← decorators rec
    expectWord "class"
    discard (rec (.classTail ds))
    return .other
  | .punct "<" =>
    if ← markup then
      rec (.markup false)
      return .other
    failure
  | _ => failure

/-! ## Accesses and calls -/

/-- Whether an expression can start at the token. -/
def startsExpression : Parse Bool := do
  match (← token).kind with
  | .name s =>
    return !reservedWords.contains s ||
      ["this", "super", "null", "true", "false", "function", "class", "new", "import", "typeof",
        "void", "delete"].contains s
  | .privateName _ | .string _ | .number | .bigint | .template .. => return true
  | .punct s =>
    return ["(", "[", "\x7b", "/", "/=", "+", "-", "~", "!", "++", "--", "<", "@"].contains s
  | _ => return false

/-- How tightly an operator of two operands binds, if the token is one. -/
def precedence? : Parse (Option Nat) := do
  match (← token).kind with
  | .punct s =>
    return [("??", 1), ("||", 2), ("&&", 3), ("|", 4), ("^", 5), ("&", 6), ("==", 7), ("!=", 7),
      ("===", 7), ("!==", 7), ("<", 8), (">", 8), ("<=", 8), (">=", 8), ("<<", 9), (">>", 9),
      (">>>", 9), ("+", 10), ("-", 10), ("*", 11), ("/", 11), ("%", 11), ("**", 12)].lookup s
  | .name "instanceof" => return some 8
  | .name "in" => return if (← read).allowIn then some 8 else none
  | .name "as" | .name "satisfies" => return if ← typed then some 8 else none
  | _ => return none

/-- Whether what follows type arguments lets them stand in an expression. -/
def endsTypeArguments : Parse Bool := do
  if (← at? "(") || (← atTemplate) then return true
  if (← at? "<") || (← at? ">") || (← at? "+") || (← at? "-") then return false
  if (← newline) || (← precedence?).isSome then return true
  return !(← startsExpression)

/-- Type arguments in an expression. -/
def typeArgumentsInExpression : Parse Unit := do
  if !(← atOpenAngle) then failure
  replace (← token).asOpenAngle
  bump
  discard (commaSeparated ">" (rec .type))
  if !(← at? ">") then failure
  let t := (← token).asAngle
  if t.kind == .punct ">=" then failure
  bump
  if !(← endsTypeArguments) then failure

/-- The expression whose type arguments a call takes over. -/
def calledExpr : Expr → Expr
  | .instantiation e => e
  | e => e

/-- One access or call on an expression; `calls` tells whether calls and optional accesses may
follow.  Optional accesses make the whole chain an expression of its own kind. -/
def suffix? (calls : Bool) (e : Expr) : Parse (Option (Expr × Bool)) := do
  match (← token).kind with
  | .punct "[" =>
    if (← read).decorator then return none
    bump
    discard (inBrackets (rec .expression))
    expect "]"
    return some (.index e, false)
  | .punct "." =>
    bump
    match (← token).kind with
    | .privateName _ =>
      bump
      return some (.index e, false)
    | _ => return some (.member e (← name), false)
  | .punct "?." =>
    if !calls then return none
    bump
    match (← token).kind with
    | .punct "[" =>
      bump
      discard (inBrackets (rec .expression))
      expect "]"
    | .punct "(" => discard (rec .arguments)
    | .name _ | .privateName _ => bump
    | .template .. => discard (templateLiteral rec)
    | _ =>
      if !(← typed) then failure
      typeArgumentsInExpression rec
      if ← at? "(" then discard (rec .arguments)
    return some (.other, true)
  | .punct "!" =>
    if (← newline) || !(← typed) then return none
    bump
    return some (.typed e, false)
  | .template .. =>
    discard (templateLiteral rec)
    return some (.other, false)
  | .punct "(" =>
    if !calls then return none
    return some (.call (calledExpr e) (← rec .arguments), false)
  | .punct "<" | .punct "<<" =>
    if !(← typed) then return none
    match ← attempt (typeArgumentsInExpression rec) with
    | some () => return some (.instantiation e, false)
    | none => return none
  | _ => return none

/-- All accesses and calls on an expression, at most a given number. -/
def suffixesUpTo (calls : Bool) : Nat → Expr → Bool → Parse Expr
  | 0, _, _ => failure
  | fuel + 1, e, chained => do
    match ← suffix? rec calls e with
    | some (e, optional) => suffixesUpTo calls fuel e (chained || optional)
    | none => return if chained then .other else e

/-- All accesses and calls on an expression. -/
def suffixes (calls : Bool) (e : Expr) : Parse Expr := do
  suffixesUpTo rec calls ((← read).source.size + 2) e false

/-- A construction, whose class is named without calls. -/
def construction : Nat → Parse Expr
  | 0 => failure
  | fuel + 1 => do
    expectWord "new"
    if ← eat "." then
      expectWord "target"
      return .other
    let callee ← if ← word? "new" then construction fuel else primary rec
    discard (suffixes rec false callee)
    if ← at? "(" then discard (rec .arguments)
    return .other

/-- **An expression that ends before any operator**, with its accesses and calls. -/
def operand : Parse Expr := do
  let e ← if ← word? "new" then construction rec ((← read).source.size + 2) else primary rec
  suffixes rec true e

/-! ## Operators -/

/-- Whether an `await` or a `yield` is an operator, where neither has to be one. -/
def actsAsOperator : Parse Bool :=
  afterNext do
    if ← newline then return false
    match (← token).kind with
    | .name s => return s != "in" && s != "instanceof" && s != "as" && s != "satisfies"
    | .string _ | .number | .bigint => return true
    | _ => return false

/-- Whether an `await` operator stands at hand. -/
def atAwait : Parse Bool := do
  if ← word? "await" then
    if (← read).await then return true
    actsAsOperator
  else return false

/-- Whether a `yield` operator stands at hand. -/
def atYield : Parse Bool := do
  if ← word? "yield" then
    if (← read).yield then return true
    actsAsOperator
  else return false

/-- An expression that may be increased, and is if it says so. -/
def updated : Parse Expr := do
  if (← eat "++") || (← eat "--") then
    let e ← rec .unary
    if !e.isSimpleTarget then failure
    return .other
  let e ← rec .operand
  if ((← at? "++") || (← at? "--")) && !(← newline) then
    if !e.isSimpleTarget then failure
    bump
    return .other
  return e

/-- **An expression with the operators that stand before it.** -/
def unary : Parse Expr := do
  match (← token).kind with
  | .punct "+" | .punct "-" | .punct "~" | .punct "!" | .name "delete" | .name "typeof"
  | .name "void" =>
    bump
    discard (rec .unary)
    return .other
  | .punct "<" =>
    if ← markup then updated rec
    else if ← typed then
      bump
      rec .type
      expect ">"
      return .typed (← rec .unary)
    else failure
  | _ =>
    if ← atAwait then
      bump
      discard (rec .unary)
      return .other
    updated rec

/-- Operators of two operands that bind tighter than `least`, at most a given number. -/
def operatorsUpTo (least : Nat) : Nat → Expr → Parse Expr
  | 0, _ => failure
  | fuel + 1, e => do
    if ← at? ">" then replace (← token).asAngle
    match ← precedence? with
    | none => return e
    | some p =>
      if p ≤ least && !(p == 12 && least == 12) then return e
      if (← word? "as") || (← word? "satisfies") then
        if ← newline then return e
        let isAs ← word? "as"
        bump
        rec .type
        operatorsUpTo least fuel (if isAs then .asType e else .typed e)
      else
        bump
        discard (rec (.binary p))
        operatorsUpTo least fuel .other

/-- **An expression with the operators of two operands** that bind tighter than `least`. -/
def binary (least : Nat) : Parse Expr := do
  let fuel := (← read).source.size + 2
  match (← token).kind with
  | .privateName _ =>
    if !(← read).allowIn then failure
    bump
    expectWord "in"
    discard (rec (.binary 8))
    operatorsUpTo rec least fuel .other
  | _ => operatorsUpTo rec least fuel (← rec .unary)

/-! ## Arrow functions -/

/-- Whether a parenthesis, or a bracket of types, opens an arrow function. -/
inductive Verdict where
  | yes
  | maybe
  | no
deriving DecidableEq

/-- What the tokens behind a parenthesis say. -/
def verdictBehindParenthesis : Parse Verdict := do
  match (← token).kind with
  | .punct ")" =>
    bump
    if ← at? ":" then return if ← typed then .maybe else .no
    return if (← at? "=>") || (← at? "\x7b") then .yes else .no
  | .punct "[" | .punct "\x7b" => return .maybe
  | .punct "..." => return .yes
  | .name s =>
    bump
    if modifierWords.contains s && s != "async" && (← atIdentifier) then
      return if ← word? "as" then .no else .yes
    if reservedWords.contains s && s != "this" then return .no
    match (← token).kind with
    | .punct ":" => return .yes
    | .punct "?" =>
      bump
      return if (← at? ":") || (← at? ",") || (← at? "=") || (← at? ")") then .yes else .no
    | .punct "," | .punct "=" | .punct ")" => return .maybe
    | _ => return .no
  | _ => return .no

/-- What the tokens behind a bracket of types say; among element literals, a bound or a comma
tells type parameters from a tag. -/
def verdictBehindAngle : Parse Verdict := do
  if !(← atIdentifier) && !(← word? "const") then return .no
  if !(← markup) then return .maybe
  bump
  if ← eatWord "extends" then
    return if (← at? "=") || (← at? ">") || (← at? "/") then .no else .yes
  return if (← at? ",") || (← at? "=") then .yes else .no

/-- Whether an arrow function with parentheses starts here. -/
def arrowVerdict : Parse Verdict := do
  let answer ← peek do
    if ← eatWord "async" then
      if ← newline then return .no
    if ← eat "(" then verdictBehindParenthesis
    else if (← typed) && (← eat "<") then verdictBehindAngle
    else return .no
  return answer.getD .no

/-- The body of an arrow function. -/
def arrowBody (async arrowResult : Bool) : Parse Unit := do
  if ← at? "\x7b" then discard (rec (.functionBody async false))
  else
    withReader (fun s => { s with await := async || s.await, yield := false }) do
      discard (rec (.assignment arrowResult))

/-- An arrow function with parentheses. -/
def parenthesizedArrow (arrowResult : Bool) : Parse Expr := do
  let async ← eatWord "async"
  typeParameters rec
  discard (withReader (fun s => { s with allowIn := true, decorator := false }) (parameters rec))
  let result ← resultAnnotation? rec
  expect "=>"
  arrowBody rec async arrowResult
  if result.isSome && !arrowResult then
    if !(← at? ":") then failure
  return .other

/-- An arrow function with parentheses, if one starts here. -/
def parenthesizedArrow? (arrowResult : Bool) : Parse (Option Expr) := do
  match ← arrowVerdict with
  | .no => return none
  | .yes => return some (← parenthesizedArrow rec true)
  | .maybe => attempt (parenthesizedArrow rec arrowResult)

/-- Whether an asynchronous arrow function of one name starts here. -/
def atAsyncArrow : Parse Bool := do
  if ← word? "async" then
    afterNext do
      if (← newline) || !(← atIdentifier) then return false
      bump
      return (← at? "=>") && !(← newline)
  else return false

/-! ## Assignments -/

/-- A `yield` with what it hands out. -/
def yieldExpression : Parse Expr := do
  expectWord "yield"
  if ← newline then return .other
  let delegates ← eat "*"
  let ends := match (← token).kind with
    | .eof => true
    | .name "in" => true
    | .punct s => [";", "\x7d", ")", "]", ":", ","].contains s
    | _ => false
  if delegates || !ends then discard (rec (.assignment true))
  return .other

/-- Whether the token assigns. -/
def atAssignment : Parse Bool := do
  match (← token).kind with
  | .punct s =>
    return ["=", "+=", "-=", "*=", "/=", "%=", "**=", "<<=", ">>=", ">>>=", "&=", "|=", "^=", "&&=",
      "||=", "??="].contains s
  | _ => return false

/-- **An expression without commas.** -/
def assignment (arrowResult : Bool) : Parse Expr := do
  if ← atYield then return (← yieldExpression rec)
  if let some e ← parenthesizedArrow? rec arrowResult then return e
  if ← atAsyncArrow then
    bump
    bump
    expect "=>"
    arrowBody rec true arrowResult
    return .other
  let e ← rec (.binary 0)
  if let .identifier _ := e then
    if ← eat "=>" then
      arrowBody rec false arrowResult
      return .other
  if ← atAssignment then
    let plain ← at? "="
    if !(if plain then e.isTarget else e.isSimpleTarget) then failure
    bump
    let value ← rec (.assignment arrowResult)
    return if plain then .assign e value else .other
  if ← eat "?" then
    discard (withReader ({ · with allowIn := true }) (rec (.assignment false)))
    expect ":"
    discard (rec (.assignment arrowResult))
    return .other
  return e

/-- **An expression.** -/
def expression : Parse Expr := do
  let e ← withReader ({ · with decorator := false }) (rec (.assignment true))
  if !(← at? ",") then return e
  repeatWhile do
    if ← eat "," then
      discard (rec (.assignment true))
      return true
    return false
  return .other

end ElementBindings.Script
