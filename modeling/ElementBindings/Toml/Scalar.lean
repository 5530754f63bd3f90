import ElementBindings.Toml.Basic

/-!
# Toml/Scalar — numbers, dates and times

A number, a date or a time is a run of letters, digits and a few signs; a space may stand between a
date and a time.  The runs are recognised, and kept as they are written.
-/

namespace ElementBindings.Toml

/-! ## Numbers -/

/-- Whether digits are written, with an underscore between some of them at most. -/
def areDigits (digit : Char → Bool) : List Char → Bool
  | [] => false
  | [c] => digit c
  | c :: '_' :: cs => digit c && areDigits digit cs
  | c :: cs => digit c && areDigits digit cs

/-- A text without the sign it starts with. -/
def dropSign : List Char → List Char
  | '+' :: cs | '-' :: cs => cs
  | cs => cs

/-- Whether a decimal number without a sign is written, with no zero in front of other digits. -/
def isDecimal (cs : List Char) : Bool :=
  areDigits Char.isDigit cs && (cs.head? != some '0' || cs.length == 1)

/-- The value of a digit, also of a hexadecimal one. -/
def digitValue (c : Char) : Nat :=
  if c.isDigit then c.toNat - '0'.toNat else c.toLower.toNat - 'a'.toNat + 10

/-- The number that digits write in a base. -/
def valueOf (base : Nat) (cs : List Char) : Nat :=
  (cs.filter (· != '_')).foldl (fun n c => base * n + digitValue c) 0

/-- Whether a digit is hexadecimal. -/
def isHexDigit (c : Char) : Bool :=
  c.isDigit || ('a' ≤ c && c ≤ 'f') || ('A' ≤ c && c ≤ 'F')

/-- A whole number with a sign has room in 64 bits below this. -/
def integerLimit : Nat := 0x8000000000000000

/-- Whether a whole number is written that has room in 64 bits. -/
def isInteger : List Char → Bool
  | '0' :: 'x' :: cs => areDigits isHexDigit cs && valueOf 16 cs < integerLimit
  | '0' :: 'o' :: cs => areDigits (fun c => '0' ≤ c && c ≤ '7') cs && valueOf 8 cs < integerLimit
  | '0' :: 'b' :: cs => areDigits (fun c => c == '0' || c == '1') cs && valueOf 2 cs < integerLimit
  | '-' :: cs => isDecimal cs && valueOf 10 cs ≤ integerLimit
  | cs => isDecimal (dropSign cs) && valueOf 10 (dropSign cs) < integerLimit

/-- Whether a character starts an exponent. -/
def isExponentMark (c : Char) : Bool := c == 'e' || c == 'E'

/-- Whether an exponent is written, or nothing. -/
def isExponent : List Char → Bool
  | [] => true
  | c :: cs => isExponentMark c && areDigits Char.isDigit (dropSign cs)

/-- Whether a number with a fraction or an exponent is written, or one beyond all numbers. -/
def isFloat (cs : List Char) : Bool :=
  let cs := dropSign cs
  if cs = ['i', 'n', 'f'] ∨ cs = ['n', 'a', 'n'] then true
  else
    let whole := cs.takeWhile fun c => c != '.' && !isExponentMark c
    isDecimal whole &&
      match cs.drop whole.length with
      | [] => false
      | '.' :: cs =>
        areDigits Char.isDigit (cs.takeWhile (!isExponentMark ·)) &&
          isExponent (cs.dropWhile (!isExponentMark ·))
      | cs => isExponent cs

/-! ## Dates and times -/

/-- Whether two digits write a number within limits. -/
def isBetween (least most : Nat) (a b : Char) : Bool :=
  a.isDigit && b.isDigit && decide (least ≤ valueOf 10 [a, b] ∧ valueOf 10 [a, b] ≤ most)

/-- The days of a month. -/
def daysIn (year month : Nat) : Nat :=
  if month = 2 then if year % 4 = 0 ∧ (year % 100 ≠ 0 ∨ year % 400 = 0) then 29 else 28
  else if month ∈ [4, 6, 9, 11] then 30
  else 31

/-- Whether a date is written. -/
def isDate : List Char → Bool
  | [a, b, c, d, '-', m, n, '-', x, y] =>
    [a, b, c, d].all Char.isDigit && isBetween 1 12 m n &&
      isBetween 1 (daysIn (valueOf 10 [a, b, c, d]) (valueOf 10 [m, n])) x y
  | _ => false

/-- Whether the hours and minutes of a day are written. -/
def isHourMinute (a b c d : Char) : Bool := isBetween 0 23 a b && isBetween 0 59 c d

/-- Whether a distance from universal time is written. -/
def isOffset : List Char → Bool
  | ['Z'] | ['z'] => true
  | [sign, a, b, ':', c, d] => (sign == '+' || sign == '-') && isHourMinute a b c d
  | _ => false

/-- Whether nothing is written behind a time, or a distance from universal time where there may be
one. -/
def endsTime (hasOffset : Bool) (cs : List Char) : Bool := cs.isEmpty || hasOffset && isOffset cs

/-- Whether a time is written. -/
def isTime (hasOffset : Bool) : List Char → Bool
  | a :: b :: ':' :: c :: d :: ':' :: x :: y :: cs =>
    isHourMinute a b c d && isBetween 0 60 x y &&
      match cs with
      | '.' :: cs =>
        (cs.head?.any Char.isDigit) && endsTime hasOffset (cs.dropWhile Char.isDigit)
      | cs => endsTime hasOffset cs
  | _ => false

/-- Whether a date, a time or both are written. -/
def isMoment (cs : List Char) : Bool :=
  isDate cs || isTime false cs ||
    isDate (cs.take 10) && (cs.drop 10).head?.any (fun c => c == 'T' || c == 't' || c == ' ') &&
      isTime true (cs.drop 11)

/-! ## Reading -/

/-- Whether a character may stand in a number, a date or a time. -/
def isScalarChar (c : Char) : Bool :=
  c.isAlphanum || c == '_' || c == '+' || c == '-' || c == '.' || c == ':'

/-- The run of characters that a text starts with, which a date carries on behind a space. -/
def scalarRun (s : List Char) : List Char × List Char :=
  let run := s.takeWhile isScalarChar
  let rest := s.dropWhile isScalarChar
  match rest with
  | ' ' :: c :: cs =>
    if isDate run && c.isDigit then
      (run ++ ' ' :: (c :: cs).takeWhile isScalarChar, (c :: cs).dropWhile isScalarChar)
    else (run, rest)
  | _ => (run, rest)

/-- The value of a run of characters. -/
def scalarValue? (run : List Char) : Option Value :=
  if run = ['t', 'r', 'u', 'e'] then some (.boolean true)
  else if run = ['f', 'a', 'l', 's', 'e'] then some (.boolean false)
  else if isInteger run || isFloat run || isMoment run then some (.scalar (String.ofList run))
  else none

/-- **Reads a truth value, a number, a date or a time.** -/
def scalar? (s : List Char) : Option (Value × List Char) :=
  let (run, rest) := scalarRun s
  (scalarValue? run).map fun v => (v, rest)

end ElementBindings.Toml
