import ElementBindings.Text.Basic

/-!
# Glob/Basic — patterns that paths match

A pattern is a list of tokens, and it matches bytes: `?` is one byte, `*` any run of bytes, and
neither crosses a slash, while a `**` component stands for any number of directories.  `rests` gives
every way a token can be matched at the front of a text, by what is left of the text; a pattern
matches a text when nothing is left in one of its ways.
-/

namespace ElementBindings.Glob

/-! ## Tokens -/

/-- A piece of a pattern. -/
inductive Token where
  | literal (c : Char)
  /-- `?` -/
  | any
  /-- `*` -/
  | zeroOrMore
  /-- `**/` that opens a pattern -/
  | recursivePrefix
  /-- `/**` that ends a pattern -/
  | recursiveSuffix
  /-- `/**/` -/
  | recursiveInfix
  /-- `[…]`, with what may stand there from each character to another one -/
  | oneOf (negated : Bool) (ranges : List (Char × Char))
  /-- `{…,…}` -/
  | alternatives (patterns : List (List Token))

/-! ## Classes -/

/-- The slash between two directories. -/
def slash : UInt8 := 0x2F

/-- The bytes that a character is written with, but for the last one. -/
def leadingBytes (c : Char) : List UInt8 := (String.utf8EncodeChar c).dropLast

/-- The last byte that a character is written with. -/
def lastByte (c : Char) : UInt8 := (String.utf8EncodeChar c).getLast?.getD 0

/-- The first byte that a character is written with. -/
def firstByte (c : Char) : UInt8 := (String.utf8EncodeChar c).head?.getD 0

/-- Whether a byte is in a range of characters.  A range counts byte by byte: it runs from the last
byte of its first character to the first byte of its last one, with all their other bytes. -/
def inRange (b : UInt8) (range : Char × Char) : Bool :=
  if range.1 = range.2 then (String.utf8EncodeChar range.1).contains b
  else (leadingBytes range.1).contains b || (lastByte range.1 ≤ b && b ≤ firstByte range.2)
    || (String.utf8EncodeChar range.2).tail.contains b

/-! ## Matching -/

/-- A text and all that is left of it after some of its bytes, up to the first one that ends a
run. -/
def runs (ends : UInt8 → Bool) : List UInt8 → List (List UInt8)
  | [] => [[]]
  | b :: bs => (b :: bs) :: if ends b then [] else runs ends bs

/-- All that is left of a text behind one of its slashes. -/
def behindSlash : List UInt8 → List (List UInt8)
  | [] => []
  | b :: bs => if b = slash then bs :: behindSlash bs else behindSlash bs

mutual

/-- Whether a token asks for nothing: a group of alternatives that ask for nothing. -/
def Token.isVoid : Token → Bool
  | .alternatives patterns => areVoid patterns
  | _ => false

/-- Whether all tokens ask for nothing. -/
def allVoid : List Token → Bool
  | [] => true
  | t :: ts => t.isVoid && allVoid ts

/-- Whether all alternatives ask for nothing. -/
def areVoid : List (List Token) → Bool
  | [] => true
  | p :: ps => allVoid p && areVoid ps

end

mutual

/-- **What can be left of a text behind a token.**  An alternative that asks for nothing does not
count, and a group without any other one is passed over. -/
def Token.rests : Token → List UInt8 → List (List UInt8)
  | .literal c, bs =>
    if (String.utf8EncodeChar c).isPrefixOf bs then [bs.drop (String.utf8EncodeChar c).length] else []
  | .any, b :: bs => if b = slash then [] else [bs]
  | .any, [] => []
  | .zeroOrMore, bs => runs (· == slash) bs
  | .recursivePrefix, bs => bs :: behindSlash bs
  | .recursiveSuffix, b :: bs => if b = slash then runs (fun _ => false) bs else []
  | .recursiveSuffix, [] => []
  | .recursiveInfix, b :: bs => if b = slash then bs :: behindSlash bs else []
  | .recursiveInfix, [] => []
  | .oneOf negated ranges, b :: bs => if ranges.any (inRange b) != negated then [bs] else []
  | .oneOf .., [] => []
  | .alternatives patterns, bs => if areVoid patterns then [bs] else someRests patterns bs

/-- What can be left of a text behind some tokens. -/
def allRests : List Token → List (List UInt8) → List (List UInt8)
  | [], texts => texts
  | t :: ts, texts => allRests ts (texts.flatMap t.rests).eraseDups

/-- What can be left of a text behind one of some alternatives. -/
def someRests : List (List Token) → List UInt8 → List (List UInt8)
  | [], _ => []
  | p :: ps, bs => (if allVoid p then [] else allRests p [bs]) ++ someRests ps bs

end

/-! ## File names -/

/-- Whether a token is a given character. -/
def Token.isChar (c : Char) : Token → Bool
  | .literal d => d == c
  | _ => false

/-- Whether a token is a character as it stands. -/
def Token.isLiteral : Token → Bool
  | .literal _ => true
  | _ => false

/-- Whether a pattern is plain text for the end of a path: all of it, or what follows a `**/`, when
there is a slash in it. -/
def isPlainText : List Token → Bool
  | .recursivePrefix :: ts => ts.all Token.isLiteral && ts.any (Token.isChar '/')
  | ts => ts.all Token.isLiteral

/-- Whether a pattern asks for a file name that ends in a dot.  Plain text asks for none. -/
def asksForDottedName (ts : List Token) : Bool :=
  ts.getLast?.any (Token.isChar '.') && !isPlainText ts

/-- Whether the last component of a path is `..`, which is no file name. -/
def endsInParent (s : String) : Bool :=
  (Text.splitOn (· == '/') s.toList).getLast? == some ['.', '.']

end ElementBindings.Glob

namespace ElementBindings

/-- A pattern for paths. -/
structure Glob where
  tokens : List Glob.Token

/-- The bytes of a text. -/
def Glob.bytes (s : String) : List UInt8 := s.toList.flatMap String.utf8EncodeChar

/-- **Whether a pattern matches a path**; a pattern that only stands for directories matches all, and
one that asks for a file name matches no path without one. -/
def Glob.matchesText (g : Glob) (s : String) : Bool :=
  match g.tokens with
  | [.recursivePrefix] => true
  | tokens => (Glob.allRests tokens [Glob.bytes s]).contains []
    && !(Glob.asksForDottedName tokens && Glob.endsInParent s)

end ElementBindings
