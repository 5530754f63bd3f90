import ElementBindings.Script.Parse.Classes

/-!
# Script/Parse/Statements — statements and declarations

Of the statements, expressions, conditions, blocks, returns and classes are kept, and what a module
exports.  Everything else is passed over, which still takes its whole grammar.
-/

namespace ElementBindings.Script

open Parse

variable (rec : Rec)

/-! ## Variables -/

/-- A variable with its type and its initial value. -/
def declarator : Parse Unit := do
  rec .pattern
  if ← typed then
    if !(← newline) then discard (eat "!")
  discard (annotation? rec)
  if ← eat "=" then discard (rec (.assignment true))

/-- Variables, separated by commas. -/
def declarators : Parse Unit :=
  repeatWhile do
    declarator rec
    eat ","

/-- Whether variables are declared by the word at hand. -/
def atVariables : Parse Bool := do
  match ← wordAtHand? with
  | some "var" | some "const" => return true
  | some "let" => afterNext (do return (← atIdentifier) || (← at? "[") || (← at? "\x7b"))
  | some "using" => afterNext (do return (← atIdentifier) && !(← word? "of") && !(← newline))
  | some "await" =>
    afterNext (do
      return !(← newline) && (← word? "using") &&
        (← afterNext (do return (← atIdentifier) && !(← newline))))
  | _ => return false

/-- The operators behind which a word is the name of a variable, even one that declares some. -/
def operatorsBehindName : List String :=
  ["=", "+=", "-=", "*=", "/=", "%=", "**=", "<<=", ">>=", ">>>=", "&=", "|=", "^=", "&&=", "||=",
    "??=", "==", "!=", "===", "!==", "<", "<=", ">", ">=", "<<", ">>", ">>>", "+", "-", "*", "/", "%",
    "**", "&", "|", "^", "&&", "||", "??", ".", "(", ";"]

/-- Whether the word `let` at hand is the name of a variable. -/
def letIsName : Parse Bool :=
  afterNext do
    match (← token).kind with
    | .punct s => return operatorsBehindName.contains s
    | .name s => return s == "in" || s == "instanceof"
    | _ => return false

/-- The words that declare variables. -/
def variableKeyword : Parse Unit := do
  if ← eatWord "await" then bump else bump

/-! ## Loops -/

/-- The rest of the head of a loop that counts. -/
def loopTail : Parse Unit := do
  expect ";"
  if !(← at? ";") then discard (inBrackets (rec .expression))
  expect ";"
  if !(← at? ")") then discard (inBrackets (rec .expression))

/-- What a loop runs over, or the rest of its head. -/
def loopHeadTail : Parse Unit := do
  if ← eatWord "in" then discard (inBrackets (rec .expression))
  else if ← eatWord "of" then discard (inBrackets (rec (.assignment true)))
  else loopTail rec

/-- The head of a loop. -/
def loopHead : Parse Unit := do
  if ← at? ";" then loopTail rec
  else if ← atVariables then
    variableKeyword
    withReader ({ · with allowIn := false }) (declarators rec)
    loopHeadTail rec
  else
    let e ← withReader ({ · with allowIn := false }) (rec .expression)
    if ((← word? "in") || (← word? "of")) && !e.isTarget then failure
    loopHeadTail rec

/-! ## Control -/

/-- An expression in parentheses. -/
def condition : Parse Unit := do
  expect "("
  discard (inBrackets (rec .expression))
  expect ")"

/-- A case of a `switch`. -/
def switchCase : Parse Unit := do
  if ← eatWord "case" then discard (rec .expression) else expectWord "default"
  expect ":"
  repeatWhile do
    if (← word? "case") || (← word? "default") || (← at? "\x7d") then return false
    discard (rec .statement)
    return true

/-- A `try` with its handlers. -/
def tryStatement : Parse Unit := do
  discard (statementsInBraces rec)
  if ← eatWord "catch" then
    if ← eat "(" then
      rec .pattern
      discard (annotation? rec)
      expect ")"
    discard (statementsInBraces rec)
  if ← eatWord "finally" then discard (statementsInBraces rec)

/-- A statement that starts with a word that no other statement starts with. -/
def controlStatement? (s : String) : Parse (Option Statement) := do
  match s with
  | "if" =>
    bump
    condition rec
    let consequent ← rec .statement
    if ← eatWord "else" then return some (.ifElse consequent (some (← rec .statement)))
    return some (.ifElse consequent none)
  | "do" =>
    bump
    discard (rec .statement)
    expectWord "while"
    condition rec
    discard (eat ";")
    return some .other
  | "while" | "with" =>
    bump
    condition rec
    discard (rec .statement)
    return some .other
  | "for" =>
    bump
    discard (eatWord "await")
    expect "("
    loopHead rec
    expect ")"
    discard (rec .statement)
    return some .other
  | "continue" | "break" =>
    bump
    if (← atIdentifier) && !(← newline) then bump
    endStatement
    return some .other
  | "switch" =>
    bump
    condition rec
    discard (bracketedCases)
    return some .other
  | "throw" =>
    bump
    discard (rec .expression)
    endStatement
    return some .other
  | "try" =>
    bump
    tryStatement rec
    return some .other
  | "debugger" =>
    bump
    endStatement
    return some .other
  | "return" =>
    bump
    if (← at? ";") || (← at? "\x7d") || (← newline) || (← token).kind == .eof then
      discard (eat ";")
      return some (.returns none)
    let e ← rec .expression
    endStatement
    return some (.returns (some e))
  | _ => return none
where
  /-- The cases of a `switch`, in braces. -/
  bracketedCases : Parse Unit := do
    expect "\x7b"
    repeatWhile do
      if ← at? "\x7d" then return false
      switchCase rec
      return true
    expect "\x7d"

/-! ## Declarations of types -/

/-- A member of an enumeration. -/
def enumMember : Parse Unit := do
  discard (memberKey rec)
  if ← eat "=" then discard (rec (.assignment true))

/-- A declaration that only a script with types has, from its word on. -/
def typeDeclaration (s : String) : Parse Unit := do
  bump
  match s with
  | "interface" =>
    discard identifier
    typeParameters rec
    if ← eatWord "extends" then
      repeatWhile do
        typeReference rec
        eat ","
    typeMembers rec
  | "type" =>
    discard identifier
    typeParameters rec
    expect "="
    rec .type
    endStatement
  | "enum" =>
    discard identifier
    discard (bracketed "\x7b" "\x7d" (enumMember rec))
  | "global" => discard (statementsInBraces rec)
  | _ =>
    match (← token).kind with
    | .string _ => bump
    | _ => dottedName
    if ← at? "\x7b" then discard (statementsInBraces rec) else endStatement

/-- Whether a declaration of types starts at the word at hand. -/
def atTypeDeclaration : Parse Bool := do
  match ← wordAtHand? with
  | some "interface" | some "type" => afterNext (do return (← atIdentifier) && !(← newline))
  | some "namespace" | some "module" =>
    afterNext do
      if ← newline then return false
      match (← token).kind with
      | .string _ => return true
      | _ => atIdentifier
  | some "enum" => return true
  | some "global" => afterNext (do return (← atName) || (← at? "\x7b"))
  | _ => return false

/-- The words that may stand before a declaration. -/
def declarationModifiers : List String :=
  ["abstract", "accessor", "declare", "private", "protected", "public", "readonly", "static"]

/-- Whether a declaration starts here, qualified by at most a given number of words. -/
def atDeclarationUpTo : Nat → Parse Bool
  | 0 => failure
  | fuel + 1 => do
    match ← wordAtHand? with
    | none => return false
    | some s =>
      if ["var", "let", "const", "function", "class", "enum", "import"].contains s then return true
      if s == "async" then afterNext (do return (← word? "function") && !(← newline))
      else if declarationModifiers.contains s then
        afterNext do
          if (← newline) && s != "static" then return false
          atDeclarationUpTo fuel
      else atTypeDeclaration

/-- Whether a qualified declaration, or a declaration of types, starts here. -/
def atQualifiedDeclaration : Parse Bool := do
  if !(← typed) then return false
  match ← wordAtHand? with
  | some s =>
    if declarationModifiers.contains s then atDeclarationUpTo ((← read).source.size + 2)
    else atTypeDeclaration
  | none => return false

/-! ## Imports -/

/-- What a module is asked for besides its path. -/
def importAttributes : Parse Unit := do
  if (← word? "with") || ((← word? "assert") && !(← newline)) then
    bump
    discard (bracketed "\x7b" "\x7d" do
      discard (memberKey rec)
      expect ":"
      discard (rec (.assignment true)))

/-- The path of a module, to the end of the statement. -/
def modulePath : Parse Unit := do
  match (← token).kind with
  | .string _ => bump
  | _ => failure
  importAttributes rec
  endStatement

/-- A name in an import or export list. -/
def listedName : Parse String := do
  match (← token).kind with
  | .string s =>
    bump
    return s
  | _ => name

/-- Whether the word `type` at hand only marks what follows it. -/
def typeMarks : Parse Bool := do
  if !(← typed) || !(← word? "type") then return false
  afterNext do
    match (← token).kind with
    | .string _ => return true
    | .name "as" => afterNext (do return (← at? ",") || (← at? "\x7d"))
    | .name _ => return true
    | _ => return false

/-- An entry of an import or export list; the list as a whole may be about types. -/
def listEntry (types : Bool) : Parse ExportName := do
  let marked ← typeMarks
  if marked then bump
  let s ← listedName
  if ← eatWord "as" then return ⟨s, ← listedName, types || marked⟩
  return ⟨s, s, types || marked⟩

/-- Whether the word `type` at hand marks a whole import. -/
def typeMarksImport : Parse Bool := do
  if !(← typed) || !(← word? "type") then return false
  afterNext do
    if (← at? "\x7b") || (← at? "*") then return true
    if ← word? "from" then return (← afterNext (do return (← word? "from") || (← at? "=")))
    atIdentifier

/-- What an import is another name for. -/
def importEquals : Parse Unit := do
  expect "="
  if (← word? "require") && (← afterNext (at? "(")) then
    bump
    discard (rec .arguments)
  else dottedName
  endStatement

/-- The names of an import other than the default one. -/
def importList : Parse Unit := do
  if ← eat "*" then
    expectWord "as"
    discard identifier
  else discard (bracketed "\x7b" "\x7d" (listEntry false))

/-- Whether the word at hand says at which stage of loading a module is imported. -/
def atImportStage : Parse Bool := do
  if ← word? "defer" then afterNext (at? "*")
  else if ← word? "source" then afterNext (do return (← atIdentifier) && (← afterNext (word? "from")))
  else return false

/-- An import declaration from its second word on. -/
def importTail : Parse Unit := do
  match (← token).kind with
  | .string _ => modulePath rec
  | _ =>
    if (← typeMarksImport) || (← atImportStage) then bump
    if ← atIdentifier then
      discard identifier
      if (← typed) && (← at? "=") then return (← importEquals rec)
      if ← eat "," then importList
    else importList
    expectWord "from"
    modulePath rec

/-! ## Declarations -/

/-- A function declaration from its word on. -/
def functionDeclaration : Parse Unit := do
  let async ← eatWord "async"
  expectWord "function"
  let generator ← eat "*"
  if ← atIdentifier then bump
  discard (rec (.functionTail async generator))

/-- Variables with the word that declares them, to the end of the statement. -/
def variableStatement : Parse Unit := do
  variableKeyword
  declarators rec
  endStatement

/-- A declaration behind the words that qualify it; it is kept if it is a class. -/
def declaration (ds : List Expr) : Parse (Option ClassDecl) := do
  if ← typed then
    repeatWhile do
      match ← wordAtHand? with
      | some s =>
        if declarationModifiers.contains s then
          bump
          return true
        return false
      | none => return false
  match ← wordAtHand? with
  | some "class" =>
    bump
    return some (← rec (.classTail ds))
  | some "const" =>
    if (← typed) && (← afterNext (word? "enum")) then
      bump
      typeDeclaration rec "enum"
    else variableStatement rec
    return none
  | some "var" | some "let" | some "using" =>
    variableStatement rec
    return none
  | some "function" | some "async" =>
    functionDeclaration rec
    return none
  | some "import" =>
    bump
    importTail rec
    return none
  | some s =>
    if (← typed) && (← atTypeDeclaration) then
      typeDeclaration rec s
      return none
    failure
  | none => failure

/-! ## Exports -/

/-- An export list, and where its names come from. -/
def exportList (types : Bool) : Parse Statement := do
  let names ← bracketed "\x7b" "\x7d" (listEntry types)
  if ← eatWord "from" then
    modulePath rec
    return .exportNames names true
  endStatement
  return .exportNames names false

/-- The export of everything that another module exports. -/
def exportAll : Parse Statement := do
  expect "*"
  if ← eatWord "as" then discard listedName
  expectWord "from"
  modulePath rec
  return .other

/-- Whether an abstract class starts here. -/
def atAbstractClass : Parse Bool := do
  if (← typed) && (← word? "abstract") then
    afterNext (do return (← word? "class") && !(← newline))
  else return false

/-- A default export, with the decorators before it. -/
def exportDefault (ds : List Expr) : Parse Statement := do
  expectWord "default"
  let ds := ds ++ (← decorators rec)
  if ← atAbstractClass then bump
  if ← eatWord "class" then return .exportDefaultClass (← rec (.classTail ds))
  if (← typed) && (← word? "interface") && (← atTypeDeclaration) then
    typeDeclaration rec "interface"
    return .other
  if (← word? "function") || (← atAsyncFunction) then
    functionDeclaration rec
    return .other
  let e ← rec (.assignment true)
  endStatement
  return .exportDefault e

/-- An export, with the decorators before it. -/
def exportStatement (ds : List Expr) : Parse Statement := do
  expectWord "export"
  let typed ← typed
  match (← token).kind with
  | .punct "\x7b" => exportList rec false
  | .punct "*" => exportAll rec
  | .punct "=" =>
    if !typed then failure
    bump
    discard (rec .expression)
    endStatement
    return .other
  | .name "default" => exportDefault rec ds
  | _ =>
    if typed && (← word? "as") && (← afterNext (word? "namespace")) then
      bump
      bump
      discard identifier
      endStatement
      return .other
    if typed && (← word? "type") then
      if ← afterNext (at? "\x7b") then
        bump
        return (← exportList rec true)
      if ← afterNext (at? "*") then
        bump
        return (← exportAll rec)
    let ds := ds ++ (← decorators rec)
    match ← declaration rec ds with
    | some c => return .exportClass c
    | none => return .other

/-! ## Statements -/

/-- A statement that is an expression, or a label with the statement it names. -/
def expressionStatement : Parse Statement := do
  let e ← rec .expression
  if let .identifier _ := e then
    if ← eat ":" then
      discard (rec .statement)
      return .other
  endStatement
  return .expression e

/-- A declaration as a statement. -/
def declarationStatement (ds : List Expr) : Parse Statement := do
  match ← declaration rec ds with
  | some c => return .classDecl c
  | none => return .other

/-- A statement that starts with a word. -/
def wordStatement (ds : List Expr) (s : String) : Parse Statement := do
  if let some statement ← controlStatement? rec s then return statement
  match s with
  | "class" | "function" | "var" | "const" => declarationStatement rec ds
  | "let" =>
    if ← letIsName then expressionStatement rec
    else
      variableStatement rec
      return .other
  | "export" => exportStatement rec ds
  | "import" =>
    if ← afterNext (do return (← at? "(") || (← at? ".")) then expressionStatement rec
    else
      bump
      importTail rec
      return .other
  | _ =>
    if ← atVariables then
      variableStatement rec
      return .other
    if (← atAsyncFunction) || (← atQualifiedDeclaration) then declarationStatement rec ds
    else expressionStatement rec

/-- **A statement.** -/
def statement : Parse Statement := do
  let ds ← decorators rec
  match (← token).kind with
  | .punct "\x7b" => return .block (← statementsInBraces rec)
  | .punct ";" =>
    bump
    return .other
  | .name s => wordStatement rec ds s
  | _ => expressionStatement rec

end ElementBindings.Script
