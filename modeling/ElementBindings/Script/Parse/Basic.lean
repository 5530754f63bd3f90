import ElementBindings.Script.Token
import ElementBindings.Script.Tree

/-!
# Script/Parse/Basic — what productions are made of

A production reads tokens and fails where the source cannot be understood; a failed production
leaves no trace, so an alternative can be tried in its place.  Productions call each other through
a table `Rec` indexed by what is to be read, which is closed at the end with as many levels as the
source can nest.
-/

namespace ElementBindings.Script

/-! ## State and surroundings -/

/-- Which language a source is read as. -/
structure Dialect where
  /-- with types -/
  typed : Bool
  /-- with element literals -/
  markup : Bool
deriving DecidableEq, Inhabited, Repr

/-- What a production knows of its surroundings. -/
structure Surroundings where
  source : Array Char
  dialect : Dialect
  /-- whether `in` is an operator here -/
  allowIn : Bool
  /-- whether `await` is an operator here -/
  await : Bool
  /-- whether `yield` is an operator here -/
  yield : Bool
  /-- whether a decorator is being read, where a bracket ends the expression -/
  decorator : Bool
  /-- whether `extends` ends a type here -/
  noConditional : Bool

/-- Where a production stands. -/
structure Place where
  token : Token
  /-- the end of the token before -/
  previous : Nat
  /-- the end of the last statement of the module that was kept -/
  statementEnd : Nat

/-- A production. -/
abbrev Parse (α : Type) := ReaderT Surroundings (StateT Place Option) α

/-! ## What can be read -/

/-- The parts of a script that contain each other. -/
inductive Part where
  /-- an expression without commas; the flag tells whether an arrow function may state its result -/
  | assignment (arrowResult : Bool)
  | expression
  | binary (precedence : Nat)
  | unary
  /-- an expression that ends before any operator -/
  | operand
  | arguments
  /-- a class from its name on, with the decorators before it -/
  | classTail (decorators : List Expr)
  /-- a function from its type parameters on -/
  | functionTail (async generator : Bool)
  /-- the body of a function, in braces -/
  | functionBody (async generator : Bool)
  | pattern
  | type
  | typeOperand
  | statement
  /-- an element literal, and whether it stands between tags -/
  | markup (child : Bool)

/-- What the tail of a function says. -/
structure FunctionTail where
  /-- the declared type of the first parameter, as written -/
  parameter : Option String
  /-- the declared type of the result, as written -/
  result : Option String
  /-- what the body says at its top, nothing where there is none -/
  body : List Statement

/-- What is read for a part. -/
def Part.Result : Part → Type
  | assignment _ | expression | binary _ | unary | operand => Expr
  | arguments => List Item
  | classTail _ => ClassDecl
  | functionTail .. => FunctionTail
  | functionBody .. => List Statement
  | statement => Statement
  | pattern | type | typeOperand | markup _ => Unit

/-- A production for every part. -/
abbrev Rec := (part : Part) → Parse part.Result

/-! ## Tokens -/

namespace Parse

/-- The token at hand. -/
def token : Parse Token := fun _ p => some (p.token, p)

/-- Whether the source is read with types. -/
def typed : Parse Bool := do return (← read).dialect.typed

/-- Whether the source is read with element literals. -/
def markup : Parse Bool := do return (← read).dialect.markup

/-- Goes on to a given token. -/
def moveTo (t : Token) : Parse Unit := modify fun p => { p with previous := p.token.stop, token := t }

/-- Goes on to the next token. -/
def bump : Parse Unit := do moveTo (← token).next

/-- Puts a second reading in the place of the token at hand. -/
def replace (t : Token) : Parse Unit := modify fun p => { p with token := t }

/-- Whether the token is a given operator or bracket. -/
def at? (s : String) : Parse Bool := do return (← token).kind == .punct s

/-- Whether the token is a given word. -/
def word? (s : String) : Parse Bool := do return (← token).kind == .name s

/-- Whether a line ends before the token. -/
def newline : Parse Bool := do return (← token).newline

/-- Whether the source is used up, or goes on with something that is no token. -/
def stuck : Parse Bool := do
  let k := (← token).kind
  return k == .eof || k == .invalid

/-- Passes a given operator or bracket, if it is there. -/
def eat (s : String) : Parse Bool := do
  if ← at? s then
    bump
    return true
  return false

/-- Passes a given word, if it is there. -/
def eatWord (s : String) : Parse Bool := do
  if ← word? s then
    bump
    return true
  return false

/-- Passes a given operator or bracket, which has to be there. -/
def expect (s : String) : Parse Unit := do
  if !(← eat s) then failure

/-- Passes a given word, which has to be there. -/
def expectWord (s : String) : Parse Unit := do
  if !(← eatWord s) then failure

/-- What a production would read, without going on. -/
def peek {α : Type} (p : Parse α) : Parse (Option α) := fun s at_ =>
  some ((p s at_).map (·.1), at_)

/-- Whether a condition holds after the token at hand. -/
def afterNext (p : Parse Bool) : Parse Bool := do
  return (← peek (do bump; p)) == some true

/-- Reads something if it is there. -/
def attempt {α : Type} (p : Parse α) : Parse (Option α) := fun s at_ =>
  match p s at_ with
  | some (a, q) => some (some a, q)
  | none => some (none, at_)

/-- The end of a statement: a semicolon, a closing brace, the end of a line or of the source. -/
def endStatement : Parse Unit := do
  if ← eat ";" then return
  let t ← token
  if t.newline || t.kind == .punct "\x7d" || t.kind == .eof then return
  failure

/-- The source between two places. -/
def textBetween (start stop : Nat) : Parse String := do
  return String.ofList ((← read).source.extract start stop).toList

/-- Reads something, with its text. -/
def withText {α : Type} (p : Parse α) : Parse (α × String) := do
  let start := (← token).start
  let a ← p
  return (a, ← textBetween start (← get).previous)

/-! ## Repetition -/

/-- Repeats a production while it says so, at most a given number of times. -/
def repeatUpTo : Nat → Parse Bool → Parse Unit
  | 0, _ => failure
  | fuel + 1, p => do if ← p then repeatUpTo fuel p

/-- Repeats a production while it says so; each time it has to pass a token. -/
def repeatWhile (p : Parse Bool) : Parse Unit := do repeatUpTo ((← read).source.size + 2) p

/-- Collects what a production reads, at most a given number of times. -/
def collectUpTo {α : Type} : Nat → Parse (Option α) → Parse (List α)
  | 0, _ => failure
  | fuel + 1, p => do
    match ← p with
    | some a => return a :: (← collectUpTo fuel p)
    | none => return []

/-- Collects what a production reads, until it reads nothing; each time it has to pass a token. -/
def collect {α : Type} (p : Parse (Option α)) : Parse (List α) := do
  collectUpTo ((← read).source.size + 2) p

/-- What stands between commas up to a closing bracket; a comma may stand before the bracket. -/
def commaSeparated {α : Type} (close : String) (item : Parse α) : Parse (List α) :=
  collect do
    if ← at? close then return none
    let a ← item
    if !(← at? close) then expect ","
    return some a

/-- A comma-separated list in brackets. -/
def bracketed {α : Type} (opening closing : String) (item : Parse α) : Parse (List α) := do
  expect opening
  let items ← commaSeparated closing item
  expect closing
  return items

/-! ## Words -/

/-- The words that name nothing. -/
def reservedWords : List String :=
  ["break", "case", "catch", "class", "const", "continue", "debugger", "default", "delete", "do",
    "else", "enum", "export", "extends", "false", "finally", "for", "function", "if", "import",
    "in", "instanceof", "new", "null", "return", "super", "switch", "this", "throw", "true", "try",
    "typeof", "var", "void", "while", "with"]

/-- The words that may qualify a declaration. -/
def modifierWords : List String :=
  ["abstract", "accessor", "async", "const", "declare", "default", "export", "in", "out", "public",
    "private", "protected", "readonly", "static", "override"]

/-- The word at hand, if the token is one. -/
def wordAtHand? : Parse (Option String) := do
  match (← token).kind with
  | .name s => return some s
  | _ => return none

/-- Whether the token is a word. -/
def atName : Parse Bool := do return (← wordAtHand?).isSome

/-- Whether the token is a word that can name something. -/
def atIdentifier : Parse Bool := do
  match ← wordAtHand? with
  | some s => return !reservedWords.contains s
  | none => return false

/-- Whether the token is a word that may qualify a declaration. -/
def atModifier : Parse Bool := do
  match ← wordAtHand? with
  | some s => return modifierWords.contains s
  | none => return false

/-- Reads a word. -/
def name : Parse String := do
  match ← wordAtHand? with
  | some s =>
    bump
    return s
  | none => failure

/-- Reads a word that can name something. -/
def identifier : Parse String := do
  if ← atIdentifier then name else failure

/-- Whether the token can start the name of a member. -/
def atMemberName : Parse Bool := do
  match (← token).kind with
  | .name _ | .privateName _ | .string _ | .number | .bigint => return true
  | .punct s => return s == "["
  | _ => return false

/-- Whether the token is a piece of a template. -/
def atTemplate : Parse Bool := do
  match (← token).kind with
  | .template .. => return true
  | _ => return false

/-- Reads a `<` that may stand at the front of a longer operator. -/
def atOpenAngle : Parse Bool := do
  match (← token).kind with
  | .punct s => return s == "<" || s == "<<" || s == "<=" || s == "<<="
  | _ => return false

/-! ## Surroundings -/

/-- Reads where `in` is an operator and brackets go on. -/
def inBrackets {α : Type} (p : Parse α) : Parse α :=
  withReader (fun s => { s with allowIn := true, decorator := false }) p

/-- Reads a type where `extends` does or does not end it. -/
def conditional {α : Type} (allowed : Bool) (p : Parse α) : Parse α :=
  withReader (fun s => { s with noConditional := !allowed }) p

/-- Reads the inside of a function. -/
def inFunction {α : Type} (async generator : Bool) (p : Parse α) : Parse α :=
  withReader (fun s => { s with allowIn := true, decorator := false, noConditional := false,
                                await := async, yield := generator }) p

end Parse

end ElementBindings.Script
