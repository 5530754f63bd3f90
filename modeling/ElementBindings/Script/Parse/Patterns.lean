import ElementBindings.Script.Parse.Types

/-!
# Script/Parse/Patterns — what values are bound to

A pattern is a name, or takes an object or an array apart.  Nothing of it is kept.
-/

namespace ElementBindings.Script

open Parse

variable (rec : Rec)

/-- A pattern with its type and its default. -/
def patternWithDefault : Parse Unit := do
  rec .pattern
  discard (annotation? rec)
  if ← eat "=" then discard (inBrackets (rec (.assignment true)))

/-- A member of an object pattern. -/
def patternMember : Parse Unit := do
  if ← eat "..." then rec .pattern
  else if (← atIdentifier) && !(← afterNext (at? ":")) then
    bump
    if ← eat "=" then discard (inBrackets (rec (.assignment true)))
  else
    discard (memberKey rec)
    expect ":"
    patternWithDefault rec

/-- An element of an array pattern; there may be none before a comma. -/
def patternElement : Parse Unit := do
  if ← eat "..." then rec .pattern
  else if !(← at? ",") then patternWithDefault rec

/-- **A pattern.** -/
def pattern : Parse Unit := do
  if ← at? "\x7b" then discard (bracketed "\x7b" "\x7d" (patternMember rec))
  else if ← at? "[" then discard (bracketed "[" "]" (patternElement rec))
  else discard identifier

end ElementBindings.Script
