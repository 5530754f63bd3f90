import ElementBindings.Text.Case

/-!
# Text/Names — the names of tags, components and handlers

A tag is written `icon-button`, the component that wraps it `IconButton`, and the handler of an
event `button-click` is called `onButtonClick`.  `kebab` goes from the second form to the first.
-/

namespace ElementBindings.Text

/-- A piece of a name with its first character in upper case. -/
def capitalize : List Char → List Char
  | [] => []
  | c :: cs => upper c ++ cs

/-- The pieces between separators, each capitalised, run together. -/
def pascal (sep : Char → Bool) (cs : List Char) : List Char := (splitOn sep cs).flatMap capitalize

/-- **The component name of a tag's stem** — `icon-button` becomes `IconButton`. -/
def pascalCase (s : String) : String := String.ofList (pascal (· == '-') s.toList)

/-- Whether a character separates the words of an event name. -/
def separatesWords (c : Char) : Bool := c == '-' || c == '_' || c == ':' || c == '.'

/-- **The handler prop of an event** — `button-click` becomes `onButtonClick`. -/
def handlerName (event : String) : String := "on" ++ String.ofList (pascal separatesWords event.toList)

/-- A name from its second character on, each upper-case letter behind a hyphen and in lower case. -/
def kebabTail (cs : List Char) : List Char :=
  cs.flatMap fun c => if isUpper c then '-' :: lower c else [c]

/-- A name with its upper-case letters in lower case and, but at the start, behind hyphens. -/
def kebab : List Char → List Char
  | [] => []
  | c :: cs => (if isUpper c then lower c else [c]) ++ kebabTail cs

/-- **The hyphenated form of a component name** — `IconButton` becomes `icon-button`. -/
def kebabCase (s : String) : String := String.ofList (kebab s.toList)

/-- Whether a character may stand in a component name after the first. -/
def isComponentChar (c : Char) : Bool := c.isAlphanum || c == '_' || c == '$'

/-- **Whether a component can be exported under a name** — an upper-case letter of ASCII, then
letters, digits, `_` and `$`. -/
def isComponentName (s : String) : Bool :=
  match s.toList with
  | [] => false
  | c :: cs => c.isUpper && cs.all isComponentChar

/-! ## Identifiers -/

/-- The names that no prop may have: the reserved words, and what React keeps for itself. -/
def reservedWords : List String :=
  ["break", "case", "catch", "class", "const", "continue", "debugger", "default", "delete", "do",
    "else", "enum", "export", "extends", "false", "finally", "for", "function", "if", "import",
    "in", "instanceof", "new", "null", "return", "super", "switch", "this", "throw", "true", "try",
    "typeof", "var", "void", "while", "with", "children", "key", "ref"]

/-- Whether a character may stand in an identifier, after its first character. -/
def isIdentifierChar (c : Char) : Bool := isWord c || c == '$'

/-- Whether a text has the form of an identifier: a letter of ASCII, `_` or `$`, then word
characters and `$`. -/
def isIdentifier : List Char → Bool
  | [] => false
  | c :: cs => (c.isAlpha || c == '_' || c == '$') && cs.all isIdentifierChar

/-- **Whether generated code can bind a name as it is.** -/
def isBindable (s : String) : Bool := isIdentifier s.toList && !reservedWords.contains s

/-! ## Free names -/

/-- **The first candidate that is not in use** — when no two candidates agree, one of the first
`used.length + 1` is free. -/
def firstFree (used : List String) (candidate : Nat → String) : String :=
  (((List.range (used.length + 1)).map candidate).find? (!used.contains ·)).getD
    (candidate used.length)

end ElementBindings.Text
