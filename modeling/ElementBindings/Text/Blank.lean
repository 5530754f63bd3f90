import ElementBindings.Text.Basic

/-!
# Text/Blank — white space

The characters with the Unicode property `White_Space`.  They are what trimming removes and what
the patterns over source text call a space; a byte-order mark and a zero-width space are not among
them.
-/

namespace ElementBindings.Text

/-- Whether a character is white space. -/
def isBlank (c : Char) : Bool :=
  let n := c.toNat
  (0x9 ≤ n && n ≤ 0xD) || n == 0x20 || n == 0x85 || n == 0xA0 || n == 0x1680 ||
    (0x2000 ≤ n && n ≤ 0x200A) || n == 0x2028 || n == 0x2029 || n == 0x202F || n == 0x205F ||
    n == 0x3000

/-- A text without the white space at its ends. -/
def trim (cs : List Char) : List Char := strip isBlank cs

/-- A text without the white space at its end. -/
def trimEnd (cs : List Char) : List Char := dropEnd isBlank cs

/-- A string without the white space at its ends. -/
def trimmed (s : String) : String := String.ofList (trim s.toList)

end ElementBindings.Text
