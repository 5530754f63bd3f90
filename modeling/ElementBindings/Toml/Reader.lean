import ElementBindings.Text.Basic
import ElementBindings.Toml.Scalar

/-!
# Toml/Reader — reading documents

A document is a sequence of lines, each of which says one thing; a value may go on over the ends of
lines.  Reading gives the statements of a document, which are then put together as its table.
Values are nested to a fixed depth at most, and dotted keys have a fixed length at most.
-/

namespace ElementBindings.Toml

/-! ## Blanks and comments -/

/-- Whether a character is a space within a line. -/
def isSpace (c : Char) : Bool := c == ' ' || c == '\t'

/-- A text without the spaces it starts with. -/
def skipSpaces (s : List Char) : List Char := s.dropWhile isSpace

/-- Whether a character may stand in comments and strings as it is. -/
def isPlain (c : Char) : Bool := c == '\t' || ' ' ≤ c && c != '\x7f'

/-- The rest of a text after a line ending. -/
def newline? : List Char → Option (List Char)
  | '\n' :: s | '\r' :: '\n' :: s => some s
  | _ => none

/-- The rest of a text after a line ending, or after its last line. -/
def endLine? : List Char → Option (List Char)
  | [] => some []
  | s => newline? s

/-- The rest of a text after a comment, if it starts with one. -/
def skipComment : List Char → List Char
  | '#' :: s => s.dropWhile isPlain
  | s => s

/-- The rest of a text after the rest of a line, on which only a comment may stand. -/
def finishLine? (s : List Char) : Option (List Char) := endLine? (skipComment (skipSpaces s))

/-- A text without the spaces, comments and line endings it starts with; a comment has to end with
its line. -/
def skipLines (s : List Char) : List Char :=
  let s' := skipSpaces s
  match newline? (skipComment s') with
  | some rest => if rest.length < s.length then skipLines rest else s'
  | none => s'
termination_by s.length

/-! ## Strings -/

/-- The character with a number in hexadecimal digits. -/
def numbered? (digits : List Char) : Option Char :=
  let n := valueOf 16 digits
  if digits.all isHexDigit ∧ n.isValidChar then some (Char.ofNat n) else none

/-- Reads a character that is written with a backslash. -/
def escape? : List Char → Option (List Char × List Char)
  | '\\' :: 'b' :: s => some (['\x08'], s)
  | '\\' :: 't' :: s => some (['\t'], s)
  | '\\' :: 'n' :: s => some (['\n'], s)
  | '\\' :: 'f' :: s => some (['\x0c'], s)
  | '\\' :: 'r' :: s => some (['\r'], s)
  | '\\' :: '"' :: s => some (['"'], s)
  | '\\' :: '\\' :: s => some (['\\'], s)
  | '\\' :: 'u' :: a :: b :: c :: d :: s => (numbered? [a, b, c, d]).map (([·], s))
  | '\\' :: 'U' :: a :: b :: c :: d :: e :: f :: g :: h :: s =>
    (numbered? [a, b, c, d, e, f, g, h]).map (([·], s))
  | _ => none

/-- Reads a character that stands for itself. -/
def plain? : List Char → Option (List Char × List Char)
  | c :: s => if isPlain c then some ([c], s) else none
  | [] => none

/-- Reads a line ending, which is a line feed however it is written. -/
def lineFeed? (s : List Char) : Option (List Char × List Char) := (newline? s).map (['\n'], ·)

/-- A text without the spaces and line endings it starts with. -/
def skipWhite : List Char → List Char
  | '\r' :: '\n' :: s => skipWhite s
  | c :: s => if isSpace c || c == '\n' then skipWhite s else c :: s
  | [] => []

/-- Reads a backslash at the end of a line, which takes out the white space behind it. -/
def fold? : List Char → Option (List Char × List Char)
  | '\\' :: s => (newline? (skipSpaces s)).map fun s => ([], skipWhite s)
  | _ => none

/-- Reads the pieces of a string up to its closing mark, with which some of its characters may be
read. -/
def body? (close piece : List Char → Option (List Char × List Char)) (s : List Char) :
    Option (List Char × List Char) :=
  match close s with
  | some found => some found
  | none =>
    match piece s with
    | some (cs, rest) =>
      if rest.length < s.length then
        (body? close piece rest).map fun (ds, rest) => (cs ++ ds, rest)
      else none
    | none => none
termination_by s.length

/-- The closing quote of a string on one line. -/
def closeOne? (quote : Char) : List Char → Option (List Char × List Char)
  | c :: s => if c = quote then some ([], s) else none
  | [] => none

/-- The three closing quotes of a string on several lines, which may end with two quotes more. -/
def closeThree? (quote : Char) (s : List Char) : Option (List Char × List Char) :=
  let quotes := s.takeWhile (· == quote)
  if quotes.length < 3 then none
  else some ((quotes.drop 3).take 2, s.drop (min quotes.length 5))

/-- A text without the line ending it starts with. -/
def dropNewline (s : List Char) : List Char := (newline? s).getD s

/-- Reads a string on one line. -/
def line? : List Char → Option (List Char × List Char)
  | '"' :: s => body? (closeOne? '"') (fun s => if s.head? = some '\\' then escape? s else plain? s) s
  | '\'' :: s => body? (closeOne? '\'') plain? s
  | _ => none

/-- **Reads a string.** -/
def string? : List Char → Option (List Char × List Char)
  | '"' :: '"' :: '"' :: s =>
    body? (closeThree? '"')
      (fun s =>
        if s.head? = some '\\' then fold? s <|> escape? s else plain? s <|> lineFeed? s)
      (dropNewline s)
  | '\'' :: '\'' :: '\'' :: s =>
    body? (closeThree? '\'') (fun s => plain? s <|> lineFeed? s) (dropNewline s)
  | s => line? s

/-! ## Keys -/

/-- Reads items with a character between them, of which there is at least one. -/
def separated? {α : Type} (item : List Char → Option (α × List Char)) (separator : Char)
    (s : List Char) : Option (List α × List Char) :=
  match item s with
  | none => none
  | some (a, []) => some ([a], [])
  | some (a, c :: rest) =>
    if c = separator then
      if rest.length < s.length then
        (separated? item separator rest).map fun (as, rest) => (a :: as, rest)
      else none
    else some ([a], c :: rest)
termination_by s.length

/-- Whether a character may stand in a key without quotes. -/
def isBareKey (c : Char) : Bool := c.isAlphanum || c == '_' || c == '-'

/-- Reads a key without dots, with the spaces around it. -/
def simpleKey? (s : List Char) : Option (String × List Char) :=
  let s := skipSpaces s
  let bare := s.takeWhile isBareKey
  let read := if bare.isEmpty then line? s else some (bare, s.dropWhile isBareKey)
  read.map fun (key, rest) => (String.ofList key, skipSpaces rest)

/-- A dotted key has fewer keys than this. -/
def keyLimit : Nat := 80

/-- **Reads a dotted key.** -/
def key? (s : List Char) : Option (Key × List Char) := do
  let (keys, rest) ← separated? simpleKey? '.' s
  if keyLimit ≤ keys.length then none
  return (← Key.ofList? keys, rest)

/-! ## Values -/

/-- Reads a dotted key with its value, which `value` reads. -/
def keyed? (value : List Char → Option (Value × List Char)) (s : List Char) :
    Option ((Key × Value) × List Char) := do
  match ← key? s with
  | (key, '=' :: rest) =>
    let (v, rest) ← value (skipSpaces rest)
    return ((key, v), skipSpaces rest)
  | _ => none

/-- Reads a value in an array, or nothing before the end of the array. -/
def item? (value : List Char → Option (Value × List Char)) (s : List Char) :
    Option (Option Value × List Char) :=
  match skipLines s with
  | ']' :: rest => some (none, ']' :: rest)
  | s => (value s).map fun (v, rest) => (some v, skipLines rest)

/-- Reads the rest of an array. -/
def array? (value : List Char → Option (Value × List Char)) (s : List Char) :
    Option (Value × List Char) := do
  match ← separated? (item? value) ',' s with
  | (items, ']' :: rest) => return (.array (items.filterMap id), rest)
  | _ => none

/-- Reads the rest of a table between braces. -/
def braces? (value : List Char → Option (Value × List Char)) (s : List Char) :
    Option (Value × List Char) :=
  match skipSpaces s with
  | '\x7d' :: rest => some (.table .braces [], rest)
  | s => do
    match ← separated? (keyed? value) ',' s with
    | (entries, '\x7d' :: rest) => return (.table .braces (← Table.ofEntries entries), rest)
    | _ => none

/-- Reads a value with at most a given number of values around the innermost one. -/
def valueWithin : Nat → List Char → Option (Value × List Char)
  | depth + 1, '[' :: s => array? (valueWithin depth) s
  | depth + 1, '\x7b' :: s => braces? (valueWithin depth) s
  | _, '"' :: s => (string? ('"' :: s)).map fun (cs, rest) => (.text (String.ofList cs), rest)
  | _, '\'' :: s => (string? ('\'' :: s)).map fun (cs, rest) => (.text (String.ofList cs), rest)
  | _, s => scalar? s

/-- How deep values are nested at most. -/
def depthLimit : Nat := 79

/-- **Reads a value.** -/
def value? (s : List Char) : Option (Value × List Char) := valueWithin depthLimit s

/-! ## Documents -/

/-- Reads the rest of a header behind its key. -/
def header? (close : List Char) (s : List Char) : Option (Key × List Char) := do
  let (key, rest) ← key? s
  return (key, ← finishLine? (← Text.dropLead? close rest))

/-- Reads a line with what it says, and the lines that its value goes on over. -/
def line : List Char → Option (Option Statement × List Char)
  | '[' :: '[' :: s =>
    (header? [']', ']'] s).map fun (key, rest) => (some (.itemHeader key), rest)
  | '[' :: s => (header? [']'] s).map fun (key, rest) => (some (.header key), rest)
  | s =>
    match finishLine? s with
    | some rest => some (none, rest)
    | none => do
      let ((key, v), rest) ← keyed? value? s
      return (some (.entry key v), ← finishLine? rest)

/-- The statements of the rest of a document. -/
def statements? (s : List Char) : Option (List Statement) :=
  match skipSpaces s with
  | [] => some []
  | s' =>
    match line s' with
    | some (statement, rest) =>
      if rest.length < s.length then
        (statements? rest).map fun more => statement.toList ++ more
      else none
    | none => none
termination_by s.length

/-- A text without the mark of its byte order. -/
def dropOrderMark : List Char → List Char
  | '\ufeff' :: s => s
  | s => s

/-- **The table that a document writes**, unless it is malformed. -/
def read (s : String) : Option Table := do
  Table.ofStatements (← statements? (dropOrderMark s.toList))

end ElementBindings.Toml
