import ElementBindings.Text.CaseTable
import ElementBindings.Text.Word

/-!
# Text/Case — upper and lower case

The full case mappings, which may turn one letter into several, and the one rule of them that looks
around: a capital sigma that ends a word becomes a final one.  On ASCII the mappings are those of
the alphabet
(`upper_ascii`, `lower_ascii`, `isUpper_ascii`) and read no table.
-/

namespace ElementBindings.Text

/-- The image of a code point under the first run that holds it. -/
def runImage? (runs : Array CaseRun) (n : Nat) : Option Nat :=
  runs.findSome? (·.image? n)

/-- **The upper case of a character** — one character or several. -/
def upper (c : Char) : List Char :=
  let n := c.toNat
  if n < 128 then [c.toUpper]
  else match upperSpecials.find? (·.1 == n) with
    | some special => special.2.map Char.ofNat
    | none => [((runImage? upperRuns n).map Char.ofNat).getD c]

/-- **The lower case of a character** — one character, but two for a dotted capital I. -/
def lower (c : Char) : List Char :=
  let n := c.toNat
  if n < 128 then [c.toLower]
  else if n = 0x130 then ['i', '\u0307']
  else [((runImage? lowerRuns n).map Char.ofNat).getD c]

/-- Whether a character is an upper-case letter. -/
def isUpper (c : Char) : Bool :=
  let n := c.toNat
  if n < 128 then c.isUpper
  else upperLetters.any fun (first, last, step) =>
    decide (first ≤ n) && decide (n ≤ last) && (n - first) % step == 0

/-- Whether a character has a case. -/
def isCased (c : Char) : Bool := inRanges casedRanges c

/-- Whether a character is looked through when the end of a word is sought. -/
def isCaseIgnorable (c : Char) : Bool := inRanges caseIgnorableRanges c

/-- Whether the nearest character that counts has a case. -/
def startsCased (cs : List Char) : Bool :=
  match cs.dropWhile isCaseIgnorable with
  | [] => false
  | c :: _ => isCased c

/-- The lower case of a text whose reversed predecessors are `before`: a capital sigma is final when
a letter stands before it and none after it. -/
def lowerAfter (before : List Char) : List Char → List Char
  | [] => []
  | c :: cs =>
    let image := if c = 'Σ' then
        if startsCased before && !startsCased cs then ['ς'] else ['σ']
      else lower c
    image ++ lowerAfter (c :: before) cs

/-- The lower case of a string. -/
def lowerString (s : String) : String := String.ofList (lowerAfter [] s.toList)

/-! ## The alphabet of ASCII -/

theorem upper_ascii {c : Char} (h : c.toNat < 128) : upper c = [c.toUpper] := by
  simp [upper, h]

theorem lower_ascii {c : Char} (h : c.toNat < 128) : lower c = [c.toLower] := by
  simp [lower, h]

theorem isUpper_ascii {c : Char} (h : c.toNat < 128) : isUpper c = c.isUpper := by
  simp [isUpper, h]

end ElementBindings.Text
