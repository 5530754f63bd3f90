import ElementBindings.Script.Parse.Expressions

/-!
# Script/Parse/Markup — element literals

An element literal has tags, attributes and children in the midst of a script.  Names may have
hyphens in them, attribute values have no escapes, and text between tags is passed over.
-/

namespace ElementBindings.Script

open Parse

variable (rec : Rec)

/-- Goes on behind a closing bracket: to a child, between tags, or to the script. -/
def closeTag (child : Bool) : Parse Unit := do
  if !(← at? ">") then failure
  let t ← token
  moveTo (if child then t.nextChild else t.next)

/-- Part of the name of a tag or of an attribute. -/
def markupWord : Parse Unit := do
  if !(← atName) then failure
  replace (← token).asMarkupName
  bump

/-- The name of a tag. -/
def tagName : Parse Unit := do
  markupWord
  if ← eat ":" then markupWord
  else
    repeatWhile do
      if ← eat "." then
        markupWord
        return true
      return false

/-- The value of an attribute. -/
def attributeValue : Parse Unit := do
  match (← token).kind with
  | .string _ => bump
  | .punct "\x7b" =>
    bump
    discard (inBrackets (rec .expression))
    expect "\x7d"
  | .punct "<" => rec (.markup false)
  | _ => failure

/-- An attribute, or attributes taken over from an object. -/
def markupAttribute : Parse Unit := do
  if ← eat "\x7b" then
    expect "..."
    discard (inBrackets (rec (.assignment true)))
    expect "\x7d"
  else
    markupWord
    if ← eat ":" then markupWord
    if ← at? "=" then
      moveTo (← token).nextAttributeValue
      attributeValue rec

/-- A substitution between tags. -/
def markupSubstitution : Parse Unit := do
  expect "\x7b"
  if ← eat "..." then discard (inBrackets (rec .expression))
  else if !(← at? "\x7d") then discard (inBrackets (rec .expression))
  if !(← at? "\x7d") then failure
  moveTo (← token).nextChild

/-- The children of an element, up to its end tag. -/
def markupChildren : Parse Unit :=
  repeatWhile do
    match (← token).kind with
    | .markup =>
      moveTo (← token).nextChild
      return true
    | .punct "\x7b" =>
      markupSubstitution rec
      return true
    | .punct "<" =>
      if ← afterNext (at? "/") then return false
      rec (.markup true)
      return true
    | _ => failure

/-- **An element literal**, and what follows it: a child, when it stands between tags. -/
def markupElement (child : Bool) : Parse Unit := do
  expect "<"
  let fragment ← at? ">"
  if !fragment then
    tagName
    if (← typed) && (← atOpenAngle) then typeArguments rec
    repeatWhile do
      if (← at? ">") || (← at? "/") then return false
      markupAttribute rec
      return true
  if ← eat "/" then closeTag child
  else
    closeTag true
    markupChildren rec
    expect "<"
    expect "/"
    if !fragment then tagName
    closeTag child

end ElementBindings.Script
