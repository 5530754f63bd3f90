import ElementBindings.Text.Visible

/-!
# Json/Basic — data as it is exchanged

A `Json.Value` is what options are given as and what a manifest is printed as.  The members of an
object keep the order they are listed in.
-/

namespace ElementBindings.Json

/-- A value of a data document. -/
inductive Value where
  | null
  | boolean (b : Bool)
  | integer (n : Int)
  /-- a number written with a point: an integer over a power of ten -/
  | decimal (mantissa : Int) (places : Nat)
  | text (s : String)
  | array (items : List Value)
  | object (members : List (String × Value))

instance : Inhabited Value := ⟨.null⟩

/-! ## Numbers with a point -/

/-- The digits of a number without the zeros at their end, and how many of them were dropped. -/
def significant (n : Nat) : List Char × Nat :=
  let digits := (Nat.toDigits 10 n)
  let kept := Text.dropEnd (· == '0') digits
  (kept, digits.length - kept.length)

/-- **A number with a point in its shortest form** — positional from a hundred-thousandth up to
sixteen digits before the point, with a power of ten beyond. -/
def decimalText (mantissa : Int) (places : Nat) : String :=
  let (digits, zeros) := significant mantissa.natAbs
  let lead : Int := digits.length + zeros - places
  let body :=
    if digits.isEmpty then "0.0"
    else if digits.length ≤ lead ∧ lead ≤ 16 then
      String.ofList (digits ++ List.replicate (lead.toNat - digits.length) '0') ++ ".0"
    else if 0 < lead ∧ lead ≤ 16 then
      String.ofList (digits.take lead.toNat) ++ "." ++ String.ofList (digits.drop lead.toNat)
    else if -5 < lead ∧ lead ≤ 0 then
      "0." ++ String.ofList (List.replicate lead.natAbs '0' ++ digits)
    else
      let fraction := if digits.length = 1 then "" else "." ++ String.ofList digits.tail
      String.ofList (digits.take 1) ++ fraction ++ "e" ++ toString (lead - 1)
  if mantissa < 0 then "-" ++ body else body

/-! ## Descriptions -/

/-- What a value is, in a message. -/
def Value.describe : Value → String
  | null => "null"
  | boolean b => "boolean \x60" ++ (if b then "true" else "false") ++ "\x60"
  | integer n => "integer \x60" ++ toString n ++ "\x60"
  | decimal mantissa places => "floating point \x60" ++ decimalText mantissa places ++ "\x60"
  | text s => "string " ++ Text.visibly s
  | array _ => "sequence"
  | object _ => "map"

end ElementBindings.Json
