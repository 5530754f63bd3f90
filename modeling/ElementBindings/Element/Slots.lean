import ElementBindings.Text.Scan

/-!
# Element/Slots — the slots of a render template

A `<slot>` in the text of a class body is named by its `name` attribute, or is the default slot.  A
name that is computed cannot be read, and such a slot is passed over.
-/

namespace ElementBindings

/-- A quoted value without interpolation. -/
def plainValue? : List Char → Option (String × List Char)
  | quote :: cs =>
    if quote = '"' ∨ quote = '\'' then
      let (value, after) := Text.breakAt (fun c => c == quote || c == '$') cs
      match after with
      | close :: rest => if close = quote then some (String.ofList value, rest) else none
      | [] => none
    else none
  | [] => none

/-- A `name` attribute with a plain value. -/
def nameAttribute? (cs : List Char) : Option (String × List Char) := do
  let cs ← Text.char? '=' (Text.skipBlank (← Text.dropLead? "name".toList cs))
  plainValue? (Text.skipBlank cs)

/-- The plain value of the first `name` attribute that starts a word; `inWord` tells whether a word
is going on. -/
def slotName? : Bool → List Char → Option String
  | _, [] => none
  | inWord, c :: cs =>
    match if inWord then none else nameAttribute? (c :: cs) with
    | some (value, _) => some value
    | none => slotName? (Text.isWord c) cs

/-- The attributes of a slot's start tag. -/
def slotTag (cs : List Char) : Option (List Char × List Char) := do
  let cs ← Text.dropLead? "<slot".toList cs
  if !Text.endsWord cs then none
  let (attributes, after) := Text.breakAt (· == '>') cs
  match after with
  | _ :: rest => some (attributes, rest)
  | [] => none

/-- The slot a start tag stands for, when its name can be read. -/
def slotOfAttributes? (attributes : List Char) : Option String :=
  match slotName? false attributes with
  | some name => some name
  | none => if Text.contains "name=".toList attributes then none else some ""

/-- **The slots of a class body**, each one once. -/
def templateSlots (body : String) : List String :=
  ((Text.scan slotTag body.toList).filterMap slotOfAttributes?).eraseDups

end ElementBindings
