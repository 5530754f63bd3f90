import ElementBindings.Json.Basic

/-!
# Json/Printer — writing data

A value is written on one line without spaces, or over several lines with every member on its own
and two spaces more for each level.  In strings, only the quote, the backslash and control characters
are escaped.
-/

namespace ElementBindings.Json

/-! ## Strings -/

/-- The lower-case hexadecimal digit of a number below sixteen. -/
def hexDigit (n : Nat) : Char := Char.ofNat (if n < 10 then 48 + n else 87 + n)

/-- A character as it stands in a string. -/
def stringChar (c : Char) : List Char :=
  if c = '"' then ['\\', '"']
  else if c = '\\' then ['\\', '\\']
  else if c = '\n' then ['\\', 'n']
  else if c = '\r' then ['\\', 'r']
  else if c = '\t' then ['\\', 't']
  else if c = '\x08' then ['\\', 'b']
  else if c = '\x0c' then ['\\', 'f']
  else if c.toNat < 0x20 then
    ['\\', 'u', '0', '0', hexDigit (c.toNat / 16), hexDigit (c.toNat % 16)]
  else [c]

/-- A string in its quotes. -/
def stringText (s : String) : String := "\"" ++ String.ofList (s.toList.flatMap stringChar) ++ "\""

/-! ## Layout -/

/-- How values are laid out. -/
inductive Layout where
  | compact
  | indented
deriving DecidableEq, Inhabited, Repr

/-- The start of a line inside a given number of brackets. -/
def Layout.newline (l : Layout) (depth : Nat) : String :=
  match l with
  | compact => ""
  | indented => "\n" ++ String.ofList (List.replicate (2 * depth) ' ')

/-- What stands between a name and its value. -/
def Layout.colon : Layout → String
  | compact => ":"
  | indented => ": "

/-- Pieces between brackets; brackets around nothing stand together. -/
def Layout.brackets (l : Layout) (depth : Nat) (opening closing : String) (pieces : List String) :
    String :=
  if pieces.isEmpty then opening ++ closing
  else opening ++ l.newline (depth + 1) ++ ("," ++ l.newline (depth + 1)).intercalate pieces
    ++ l.newline depth ++ closing

mutual

/-- A value inside a given number of brackets. -/
def Value.printAt (l : Layout) (depth : Nat) : Value → String
  | .null => "null"
  | .boolean b => if b then "true" else "false"
  | .integer n => toString n
  | .decimal mantissa places => decimalText mantissa places
  | .text s => stringText s
  | .array items => l.brackets depth "[" "]" (printItems l (depth + 1) items)
  | .object members => l.brackets depth "\x7b" "\x7d" (printMembers l (depth + 1) members)

/-- The items of an array. -/
def printItems (l : Layout) (depth : Nat) : List Value → List String
  | [] => []
  | v :: vs => v.printAt l depth :: printItems l depth vs

/-- The members of an object. -/
def printMembers (l : Layout) (depth : Nat) : List (String × Value) → List String
  | [] => []
  | (name, v) :: members =>
    (stringText name ++ l.colon ++ v.printAt l depth) :: printMembers l depth members

end

/-- **The text of a value.** -/
def Value.print (l : Layout) (v : Value) : String := v.printAt l 0

end ElementBindings.Json
