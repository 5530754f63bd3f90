import ElementBindings.Text.Blank

/-!
# Text/Visible — text that shows every character

A text is quoted in a message so that each of its characters can be seen: those that leave no mark
are written as escapes, the common ones by a letter and the others by their number.
-/

namespace ElementBindings.Text

/-- The characters above ASCII that leave no mark of their own: controls, format characters,
combining marks of the first block, private use and variation selectors. -/
def unmarkedRanges : List (Nat × Nat) :=
  [(0x80, 0x9F), (0xAD, 0xAD), (0x300, 0x36F), (0x600, 0x605), (0x61C, 0x61C), (0x6DD, 0x6DD),
    (0x70F, 0x70F), (0x180E, 0x180E), (0x200B, 0x200F), (0x202A, 0x202E), (0x2060, 0x206F),
    (0x20D0, 0x20F0), (0xE000, 0xF8FF), (0xFE00, 0xFE0F), (0xFE20, 0xFE2F), (0xFEFF, 0xFEFF),
    (0xFFF0, 0xFFFB), (0xFFFE, 0xFFFF), (0xE0000, 0xE0FFF), (0xF0000, 0x10FFFF)]

/-- Whether a character leaves a mark, or is a plain space. -/
def isVisible (c : Char) : Bool :=
  c == ' ' || !(isBlank c || c.toNat < 0x20 || c.toNat == 0x7F ||
    unmarkedRanges.any fun (low, high) => low ≤ c.toNat && c.toNat ≤ high)

/-- A character as it stands in a quotation. -/
def visibleChar (c : Char) : List Char :=
  if c = '"' then ['\\', '"']
  else if c = '\\' then ['\\', '\\']
  else if c = '\n' then ['\\', 'n']
  else if c = '\r' then ['\\', 'r']
  else if c = '\t' then ['\\', 't']
  else if c = '\x00' then ['\\', '0']
  else if isVisible c then [c]
  else "\\u\x7b".toList ++ Nat.toDigits 16 c.toNat ++ ['}']

/-- **A text in quotes, with every character to be seen.** -/
def visibly (s : String) : String := "\"" ++ String.ofList (s.toList.flatMap visibleChar) ++ "\""

end ElementBindings.Text
