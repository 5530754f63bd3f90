import ElementBindings.Text.Word

/-!
# Script/Token — the words of a script

A token is read off the front of the source that is left, after white space and comments.  Some
characters mean different things in different places, so the reader of a token also offers to read
it again: a `/` as the start of a pattern, a `>` as the start of a longer operator, a brace as the
end of a substitution.
-/

namespace ElementBindings.Script

/-! ## Characters -/

/-- Whether a character ends a line. -/
def isLineEnd (c : Char) : Bool := c == '\n' || c == '\r' || c == '\u2028' || c == '\u2029'

/-- Whether a character separates tokens on a line. -/
def isSpace (c : Char) : Bool :=
  let n := c.toNat
  c == ' ' || c == '\t' || n == 0xB || n == 0xC || n == 0x85 || n == 0xA0 || n == 0x1680 ||
    (0x2000 ≤ n && n ≤ 0x200B) || n == 0x202F || n == 0x205F || n == 0x3000 || n == 0xFEFF

/-- The value of a hexadecimal digit. -/
def hexValue? (c : Char) : Option Nat :=
  if c.isDigit then some (c.toNat - 48)
  else if 'a' ≤ c ∧ c ≤ 'f' then some (c.toNat - 87)
  else if 'A' ≤ c ∧ c ≤ 'F' then some (c.toNat - 55)
  else none

/-- The number that hexadecimal digits write. -/
def hexNumber? (digits : List Char) : Option Nat :=
  if digits.isEmpty then none
  else digits.foldlM (fun n c => (hexValue? c).map (16 * n + ·)) 0

/-! ## Kinds -/

/-- What a token is. -/
inductive Kind where
  /-- an identifier or a keyword -/
  | name (s : String)
  | privateName (s : String)
  | string (value : String)
  | number
  | bigint
  | pattern
  /-- a piece of a template up to a substitution, or up to the end when `last` -/
  | template (last : Bool) (value : Option String)
  /-- text between the tags of an element literal -/
  | markup
  | punct (s : String)
  /-- the end of the source -/
  | eof
  /-- something that is no token -/
  | invalid
deriving DecidableEq, Inhabited, Repr

/-! ## White space and comments -/

/-- Where a blank stretch ends. -/
structure Gap where
  position : Nat
  rest : List Char
  /-- whether a line ended in it -/
  newline : Bool
  /-- whether a comment is left open -/
  unclosed : Bool

/-- What a blank stretch is in the middle of. -/
inductive GapState where
  | blank
  | lineComment
  | blockComment

/-- The white space and the comments at the start of a text. -/
def gap : GapState → Nat → Bool → List Char → Gap
  | .blank, n, nl, '/' :: '/' :: cs => gap .lineComment (n + 2) nl cs
  | .blank, n, nl, '/' :: '*' :: cs => gap .blockComment (n + 2) nl cs
  | .blank, n, nl, c :: cs =>
    if isLineEnd c then gap .blank (n + 1) true cs
    else if isSpace c then gap .blank (n + 1) nl cs
    else ⟨n, c :: cs, nl, false⟩
  | .lineComment, n, nl, c :: cs =>
    if isLineEnd c then gap .blank (n + 1) true cs else gap .lineComment (n + 1) nl cs
  | .blockComment, n, nl, '*' :: '/' :: cs => gap .blank (n + 2) nl cs
  | .blockComment, n, nl, c :: cs => gap .blockComment (n + 1) (nl || isLineEnd c) cs
  | .blockComment, n, nl, [] => ⟨n, [], nl, true⟩
  | _, n, nl, [] => ⟨n, [], nl, false⟩

/-! ## Strings -/

/-- The length of a quoted text up to the quote that closes it, and past it; a line does not end in
it unless `multiline`. -/
def quotedLength? (quote : Char) (multiline : Bool) : Nat → List Char → Option Nat
  | _, [] => none
  | n, '\\' :: '\r' :: '\n' :: cs => quotedLength? quote multiline (n + 3) cs
  | n, '\\' :: _ :: cs => quotedLength? quote multiline (n + 2) cs
  | n, c :: cs =>
    if c = quote then some (n + 1)
    else if (c = '\n' ∨ c = '\r') ∧ !multiline then none
    else quotedLength? quote multiline (n + 1) cs

/-- Whether a character is an octal digit. -/
def isOctal (c : Char) : Bool := '0' ≤ c && c ≤ '7'

/-- The value of an octal digit. -/
def octalValue (c : Char) : Nat := c.toNat - 48

/-- What the digits of an escape write, and what is left; more than nothing is read. -/
def unicodeEscape? (cs : List Char) : Option (Nat × Nat) :=
  match cs with
  | '{' :: cs =>
    let digits := cs.takeWhile (· != '}')
    if digits.length < cs.length then
      (hexNumber? digits).bind fun n => if n ≤ 0x10FFFF then some (n, digits.length + 2) else none
    else none
  | a :: b :: c :: d :: _ => (hexNumber? [a, b, c, d]).map (·, 4)
  | _ => none

/-- The code points a quoted text stands for; the first argument counts characters that an escape
has used up. -/
def codePoints : Nat → List Char → List Nat
  | _, [] => []
  | skip + 1, _ :: cs => codePoints skip cs
  | 0, '\\' :: cs =>
    match cs with
    | [] => []
    | 'n' :: _ => 10 :: codePoints 1 cs
    | 't' :: _ => 9 :: codePoints 1 cs
    | 'r' :: _ => 13 :: codePoints 1 cs
    | 'b' :: _ => 8 :: codePoints 1 cs
    | 'v' :: _ => 11 :: codePoints 1 cs
    | 'f' :: _ => 12 :: codePoints 1 cs
    | '\r' :: '\n' :: _ => codePoints 2 cs
    | 'x' :: a :: b :: _ =>
      match hexNumber? [a, b] with
      | some n => n :: codePoints 3 cs
      | none => codePoints 1 cs
    | 'u' :: ds =>
      match unicodeEscape? ds with
      | some (n, used) => n :: codePoints (used + 1) cs
      | none => codePoints 1 cs
    | c :: ds =>
      if isLineEnd c then codePoints 1 cs
      else if isOctal c then
        let more := (ds.take (if c ≤ '3' then 2 else 1)).takeWhile isOctal
        (c :: more).foldl (fun n d => 8 * n + octalValue d) 0 :: codePoints (1 + more.length) cs
      else c.toNat :: codePoints 1 cs
  | 0, c :: cs => c.toNat :: codePoints 0 cs

/-- Whether a number is the first half of a surrogate pair. -/
def isHighSurrogate (n : Nat) : Bool := 0xD800 ≤ n && n < 0xDC00

/-- Whether a number is the second half of a surrogate pair. -/
def isLowSurrogate (n : Nat) : Bool := 0xDC00 ≤ n && n < 0xE000

/-- Code points with surrogate pairs put together. -/
def joinPairs : List Nat → List Nat
  | h :: l :: ns =>
    if isHighSurrogate h && isLowSurrogate l then
      (0x10000 + (h - 0xD800) * 0x400 + (l - 0xDC00)) :: joinPairs ns
    else h :: joinPairs (l :: ns)
  | ns => ns

/-- Whether a number is half of a surrogate pair. -/
def isSurrogate (n : Nat) : Bool := isHighSurrogate n || isLowSurrogate n

/-- The four lower-case hexadecimal digits of a number. -/
def hexDigits (n : Nat) : List Char :=
  [n / 4096 % 16, n / 256 % 16, n / 16 % 16, n % 16].map fun d =>
    Char.ofNat (if d < 10 then 48 + d else 87 + d)

/-- **The text of a sequence of code points.**  When a half of a pair stands alone, it is written
as its number behind a replacement character, and so is a replacement character itself. -/
def textOfCodePoints (ns : List Nat) : String :=
  let ns := joinPairs ns
  if ns.any isSurrogate then
    String.ofList (ns.flatMap fun n =>
      if isSurrogate n || n == 0xFFFD then '\ufffd' :: hexDigits n else [Char.ofNat n])
  else String.ofList (ns.map Char.ofNat)

/-- A text with every line ended by a line feed. -/
def unifyLines : List Char → List Char
  | '\r' :: '\n' :: cs => '\n' :: unifyLines cs
  | '\r' :: cs => '\n' :: unifyLines cs
  | c :: cs => c :: unifyLines cs
  | [] => []

/-- A piece of a template: its length past what ends it, and whether the template ends there. -/
def templateLength? : Nat → List Char → Option (Nat × Bool)
  | _, [] => none
  | n, '\\' :: _ :: cs => templateLength? (n + 2) cs
  | n, '\x60' :: _ => some (n + 1, true)
  | n, '$' :: '\x7b' :: _ => some (n + 2, false)
  | n, _ :: cs => templateLength? (n + 1) cs

/-- The piece of a template that follows a back quote or a closing brace. -/
def templateKind (cs : List Char) : Kind × Nat :=
  match templateLength? 0 cs with
  | none => (.invalid, cs.length)
  | some (n, last) =>
    let value := cs.take (n - if last then 1 else 2)
    (.template last (some (textOfCodePoints (codePoints 0 (unifyLines value)))), n)

/-! ## Names -/

/-- A name with its escapes resolved, and its length; `first` tells whether it starts here. -/
def nameLength? : Nat → Bool → List Char → Option (List Char × Nat)
  | 0, _, _ => none
  | fuel + 1, first, '\\' :: 'u' :: cs => do
    let (n, used) ← unicodeEscape? cs
    let c := Char.ofNat n
    if (if first then Text.isIdentifierStart c else Text.isIdentifierPart c) && !isSurrogate n then
      let (tail, length) ← nameLength? fuel false (cs.drop used)
      some (c :: tail, length + used + 2)
    else none
  | fuel + 1, first, cs =>
    match cs with
    | c :: cs =>
      if if first then Text.isIdentifierStart c else Text.isIdentifierPart c then
        (nameLength? fuel false cs).map fun (tail, length) => (c :: tail, length + 1)
      else if first || c == '\\' then none
      else some ([], 0)
    | [] => if first then none else some ([], 0)

/-- The name at the start of a text. -/
def name? (cs : List Char) : Option (String × Nat) :=
  (nameLength? (cs.length + 1) true cs).map fun (s, n) => (String.ofList s, n)

/-! ## Numbers -/

/-- The digits at the start of a text, single underscores between them. -/
def digits (isDigit : Char → Bool) : List Char → List Char
  | c :: '_' :: d :: cs =>
    if isDigit c then
      if isDigit d then c :: '_' :: digits isDigit (d :: cs) else [c]
    else []
  | c :: cs => if isDigit c then c :: digits isDigit cs else []
  | [] => []

/-- The length of the exponent at the start of a text. -/
def exponentLength : List Char → Nat
  | e :: cs =>
    if e = 'e' ∨ e = 'E' then
      let sign := match cs with
        | '+' :: _ | '-' :: _ => 1
        | _ => 0
      1 + sign + (digits Char.isDigit (cs.drop sign)).length
    else 0
  | [] => 0

/-- The length of the fraction and the exponent at the start of a text. -/
def fractionLength : List Char → Nat
  | '.' :: cs =>
    let n := (digits Char.isDigit cs).length
    1 + n + exponentLength (cs.drop n)
  | cs => exponentLength cs

/-- A numeral and its length; no name and no digit may follow it. -/
def numberKind (cs : List Char) : Kind × Nat :=
  let radix (isDigit : Char → Bool) : Kind × Nat :=
    let n := 2 + (digits isDigit (cs.drop 2)).length
    if (cs.drop n).head? = some 'n' then (.bigint, n + 1) else (.number, n)
  let (kind, n) : Kind × Nat :=
    match cs with
    | '0' :: x :: _ =>
      if x = 'x' ∨ x = 'X' then radix fun c => (hexValue? c).isSome
      else if x = 'o' ∨ x = 'O' then radix isOctal
      else if x = 'b' ∨ x = 'B' then radix fun c => c == '0' || c == '1'
      else if x = 'n' then (.bigint, 2)
      else
        let n := (digits Char.isDigit cs).length
        (.number, n + fractionLength (cs.drop n))
    | _ =>
      let n := (digits Char.isDigit cs).length
      if (cs.drop n).head? = some 'n' then (.bigint, n + 1)
      else (.number, n + fractionLength (cs.drop n))
  match cs.drop n with
  | c :: _ => if c.isDigit || Text.isIdentifierStart c || c == '\\' then (.invalid, n + 1) else (kind, n)
  | [] => (kind, n)

/-! ## Operators -/

/-- The operators of more than one character, the longest first; those that start with `>` are put
together only where an operator is expected. -/
def longOperators : List String :=
  ["!==", "===", "**=", "...", "<<=", "&&=", "||=", "??=", "!=", "==", "=>", "**", "*=", "++", "+=",
    "--", "-=", "/=", "%=", "<<", "<=", "&&", "&=", "||", "|=", "??", "^="]

/-- The operators that start with `>`, the longest first. -/
def angleOperators : List String := [">>>=", ">>>", ">>=", ">>", ">=", ">"]

/-- The characters that are tokens of their own. -/
def isPunctuation (c : Char) : Bool :=
  "\x7b\x7d()[];,:~?.<>!=+-*/%&|^@".toList.contains c

/-- The operator of a list that a text starts with. -/
def operator? (operators : List String) (cs : List Char) : Option String :=
  operators.find? fun o => o.toList.isPrefixOf cs

/-- A question mark and what belongs to it: a dot does, unless a digit follows. -/
def questionKind : List Char → Kind × Nat
  | '?' :: '?' :: '=' :: _ => (.punct "??=", 3)
  | '?' :: '?' :: _ => (.punct "??", 2)
  | '?' :: '.' :: c :: _ => if c.isDigit then (.punct "?", 1) else (.punct "?.", 2)
  | '?' :: '.' :: [] => (.punct "?.", 2)
  | _ => (.punct "?", 1)

/-! ## Tokens -/

/-- The token at the start of a text, and its length. -/
def lexeme (cs : List Char) : Kind × Nat :=
  match cs with
  | [] => (.eof, 0)
  | '#' :: rest =>
    match name? rest with
    | some (s, n) => (.privateName s, n + 1)
    | none => (.invalid, 1)
  | '\x60' :: rest =>
    let (kind, n) := templateKind rest
    (kind, n + 1)
  | '.' :: d :: _ =>
    if d.isDigit then numberKind cs
    else if "...".toList.isPrefixOf cs then (.punct "...", 3)
    else (.punct ".", 1)
  | '?' :: _ => questionKind cs
  | c :: rest =>
    if c = '"' ∨ c = '\'' then
      match quotedLength? c false 0 rest with
      | some n => (.string (textOfCodePoints (codePoints 0 (rest.take (n - 1)))), n + 1)
      | none => (.invalid, 1)
    else if c.isDigit then numberKind cs
    else
      match name? cs with
      | some (s, n) => (.name s, n)
      | none =>
        match operator? longOperators cs with
        | some o => (.punct o, o.length)
        | none => if isPunctuation c then (.punct (String.singleton c), 1) else (.invalid, 1)

/-- A token with its place in the source. -/
structure Token where
  kind : Kind
  start : Nat
  stop : Nat
  /-- whether a line ends before it -/
  newline : Bool
  /-- the source from the token on -/
  source : List Char
deriving Inhabited

namespace Token

/-- A token of a given length. -/
def make (g : Gap) (lexed : Kind × Nat) : Token :=
  ⟨lexed.1, g.position, g.position + lexed.2, g.newline, g.rest⟩

/-- The token that starts a text, after white space and comments, under a reading of its own. -/
def readWith (lex : List Char → Kind × Nat) (position : Nat) (cs : List Char) : Token :=
  let g := gap .blank position false cs
  if g.unclosed then make g (.invalid, 0) else make g (lex g.rest)

/-- The source behind a token. -/
def rest (t : Token) : List Char := t.source.drop (t.stop - t.start)

/-- The token after another one. -/
def next (t : Token) : Token := readWith lexeme t.stop t.rest

/-- The token read again, at the same place. -/
def again (t : Token) (lexed : Kind × Nat) : Token :=
  { t with kind := lexed.1, stop := t.start + lexed.2 }

/-- The first token of a source, after the line that names an interpreter. -/
def first (cs : List Char) : Token :=
  match cs with
  | '#' :: '!' :: _ =>
    let line := cs.takeWhile (!isLineEnd ·)
    readWith lexeme line.length (cs.drop line.length)
  | _ => readWith lexeme 0 cs

/-! ## Reading again -/

/-- The length of a regular expression up to its closing slash, and past it; `inClass` tells whether
a bracket is open. -/
def patternLength? : Nat → Bool → List Char → Option Nat
  | n, inClass, '\\' :: c :: cs => if isLineEnd c then none else patternLength? (n + 2) inClass cs
  | n, inClass, c :: cs =>
    if isLineEnd c then none
    else if c = '/' ∧ !inClass then some (n + 1)
    else patternLength? (n + 1) (if c = '[' then true else if c = ']' then false else inClass) cs
  | _, _, [] => none

/-- A slash read as the start of a regular expression. -/
def asPattern (t : Token) : Token :=
  match patternLength? 1 false (t.source.drop 1) with
  | some n =>
    let flags := (t.source.drop n).takeWhile fun c => c.isAlphanum || c == '_' || c == '$'
    t.again (.pattern, n + flags.length)
  | none => t.again (.invalid, 1)

/-- A `>` read as the operator it starts. -/
def asAngle (t : Token) : Token :=
  match operator? angleOperators t.source with
  | some o => t.again (.punct o, o.length)
  | none => t

/-- An operator that starts with `<` read as that character alone. -/
def asOpenAngle (t : Token) : Token := t.again (.punct "<", 1)

/-- A closing brace read as the end of a substitution, with the piece of the template behind it. -/
def asTemplate (t : Token) : Token :=
  let (kind, n) := templateKind (t.source.drop 1)
  t.again (kind, n + 1)

/-- A name read on over hyphens, as element literals have them. -/
def asMarkupName (t : Token) : Token :=
  let length := (t.source.takeWhile fun c => Text.isIdentifierPart c || c == '-').length
  t.again (t.kind, length)

/-- What stands between two tags: a tag, a substitution or text. -/
def markupChild (cs : List Char) : Kind × Nat :=
  match cs with
  | [] => (.eof, 0)
  | '<' :: _ => (.punct "<", 1)
  | '\x7b' :: _ => (.punct "\x7b", 1)
  | _ => (.markup, (cs.takeWhile fun c => c != '<' && c != '\x7b').length)

/-- The child of an element literal behind a token. -/
def nextChild (t : Token) : Token :=
  make ⟨t.stop, t.rest, false, false⟩ (markupChild t.rest)

/-- The value of an attribute: in quotes there are no escapes, and lines may end. -/
def attributeValue (cs : List Char) : Kind × Nat :=
  match cs with
  | c :: rest =>
    if c = '"' ∨ c = '\'' then
      let value := rest.takeWhile (· != c)
      if value.length < rest.length then (.string (String.ofList value), value.length + 2)
      else (.invalid, 1)
    else lexeme cs
  | [] => (.eof, 0)

/-- The value of the attribute of an element literal, behind a token. -/
def nextAttributeValue (t : Token) : Token := readWith attributeValue t.stop t.rest

end Token

end ElementBindings.Script
