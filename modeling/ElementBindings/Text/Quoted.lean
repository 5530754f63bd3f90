import ElementBindings.Text.Basic

/-!
# Text/Quoted — text between double quotes

How a text is written inside a double-quoted literal of a generated module: a backslash and a quote
get a backslash before them, a line feed is written `\n`, and every other character stands for
itself.
-/

namespace ElementBindings.Text

/-- A character as it stands between double quotes. -/
def escapeChar : Char → List Char
  | '\\' => ['\\', '\\']
  | '"' => ['\\', '"']
  | '\n' => ['\\', 'n']
  | c => [c]

/-- **A text as it stands between double quotes.** -/
def escape (cs : List Char) : List Char := cs.flatMap escapeChar

@[simp] theorem escape_nil : escape [] = [] := rfl

/-- A string as it stands between double quotes. -/
def escaped (s : String) : String := String.ofList (escape s.toList)

/-- A string as a double-quoted literal. -/
def quoted (s : String) : String := "\"" ++ escaped s ++ "\""

end ElementBindings.Text
