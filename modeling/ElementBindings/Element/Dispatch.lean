import ElementBindings.Element.Doc

/-!
# Element/Dispatch — the events a class body dispatches

A dispatch site is a `new CustomEvent` or `new Event` with a plain string for a name, found in the
text of a class body.  A `CustomEvent` carries the detail type it is given, or an unknown one.
-/

namespace ElementBindings

/-- The quoted name an event is constructed with. -/
def siteName? (cs : List Char) : Option (String × List Char) := do
  match Text.skipBlank (← Text.char? '(' (Text.skipBlank cs)) with
  | [] => none
  | quote :: cs =>
    let (name, after) := Text.breakAt (fun c => Text.isQuote c || c == '$') cs
    match after with
    | close :: rest =>
      if Text.isQuote quote && Text.isQuote close && !name.isEmpty then
        some (String.ofList name, rest)
      else none
    | [] => none

/-- A detail type and the name that follows it: the type ends at the first `>` behind which a name
stands, and on the line it starts on.  The first argument holds, reversed, what has been read. -/
def typedSite? : List Char → List Char → Option ((String × String) × List Char)
  | _, [] => none
  | type, c :: cs =>
    if c = '>' ∧ type ≠ [] then
      match siteName? cs with
      | some (name, rest) => some ((String.ofList type.reverse, name), rest)
      | none => typedSite? (c :: type) cs
    else if c = '\n' then none
    else typedSite? (c :: type) cs

/-- A dispatch site. -/
def site? (cs : List Char) : Option (Event × List Char) := do
  let cs ← Text.skipBlank? (← Text.dropLead? "new".toList cs)
  let (custom, cs) ← match Text.dropLead? "CustomEvent".toList cs with
    | some rest => some (true, rest)
    | none => (Text.dropLead? "Event".toList cs).map (false, ·)
  let detail (type : String) : Option String := if custom then some type else none
  match Text.skipBlank cs with
  | '<' :: cs =>
    let ((type, name), rest) ← typedSite? [] cs
    some (⟨name, detail (Text.trimmed type)⟩, rest)
  | cs =>
    let (name, rest) ← siteName? cs
    some (⟨name, detail "unknown"⟩, rest)

/-- Every dispatch site of a class body, in order. -/
def dispatchSites (body : String) : List Event := Text.scan site? body.toList

/-- **The events a class body dispatches**, the first site kept of each name. -/
def dispatchedEvents (body : String) : List Event := firstPerName (dispatchSites body)

end ElementBindings
