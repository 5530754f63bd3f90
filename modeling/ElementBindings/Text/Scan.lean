import ElementBindings.Text.Blank
import ElementBindings.Text.Word

/-!
# Text/Scan — finding things in free text

A recogniser reads something off the front of a text and returns it with the rest.  `scan` tries it
at every place from the left and goes on behind each find, so finds never overlap.
-/

namespace ElementBindings.Text

/-- What a recogniser finds from the left; `skip` characters belong to the find before. -/
def scanFrom {α : Type} (read : List Char → Option (α × List Char)) : Nat → List Char → List α
  | _, [] => []
  | skip + 1, _ :: cs => scanFrom read skip cs
  | 0, c :: cs =>
    match read (c :: cs) with
    | some (a, rest) => a :: scanFrom read (cs.length - rest.length) cs
    | none => scanFrom read 0 cs

/-- **All that a recogniser finds in a text**, from the left and without overlap. -/
def scan {α : Type} (read : List Char → Option (α × List Char)) (cs : List Char) : List α :=
  scanFrom read 0 cs

/-- The first thing that a recogniser finds in a text. -/
def search {α : Type} (read : List Char → Option (α × List Char)) : List Char → Option α
  | [] => none
  | c :: cs =>
    match read (c :: cs) with
    | some (a, _) => some a
    | none => search read cs

/-! ## Pieces of recognisers -/

/-- A text without the white space it starts with. -/
def skipBlank (cs : List Char) : List Char := cs.dropWhile isBlank

/-- A text without the white space it starts with, of which there must be some. -/
def skipBlank? : List Char → Option (List Char)
  | c :: cs => if isBlank c then some (skipBlank cs) else none
  | [] => none

/-- The rest of a text after one given character. -/
def char? (d : Char) : List Char → Option (List Char)
  | c :: cs => if c = d then some cs else none
  | [] => none

/-- Whether no word goes on at the start of a text. -/
def endsWord : List Char → Bool
  | c :: _ => !isWord c
  | [] => true

/-- A name that starts with a letter of ASCII or `_` and goes on while `part` holds. -/
def name? (part : Char → Bool) : List Char → Option (List Char × List Char)
  | c :: cs =>
    if c.isAlpha || c == '_' then some (c :: cs.takeWhile part, cs.dropWhile part) else none
  | [] => none

/-- Whether a character quotes a string of a script. -/
def isQuote (c : Char) : Bool := c == '\'' || c == '"' || c == '\x60'

end ElementBindings.Text
