import ElementBindings.Element.Basic
import ElementBindings.Text.Scan

/-!
# Element/Doc — what the doc comment of a class says

The last doc block before a class describes its element: the first paragraph of free text is the
description, each `@fires` or `@event` line names an event and may type it, and each `@slot` line
names a slot.  `DocTag` keeps every tag line; `ClassDoc` keeps the first one per name.
-/

namespace ElementBindings

/-! ## Lines -/

/-- The insides of the doc blocks of a text.  The first argument holds, reversed, what has been read
of a block that is open. -/
def docBlocks : Option (List Char) → List Char → List (List Char)
  | none, '/' :: '*' :: '*' :: cs => docBlocks (some []) cs
  | none, _ :: cs => docBlocks none cs
  | some inside, '*' :: '/' :: cs => inside.reverse :: docBlocks none cs
  | some inside, c :: cs => docBlocks (some (c :: inside)) cs
  | _, [] => []

/-- A line of a doc block without its margin: white space, one star, one space. -/
def dropMargin (line : List Char) : List Char :=
  let line := match Text.skipBlank line with
    | '*' :: cs => cs
    | cs => cs
  Text.trimEnd (match line with
    | c :: cs => if Text.isBlank c then cs else c :: cs
    | [] => [])

/-- The lines of a doc block. -/
def docLines (inside : List Char) : List (List Char) := (Text.lines inside).map dropMargin

/-- **The first paragraph of free text**, its lines run together. -/
def docDescription (lines : List (List Char)) : Option String :=
  let text := ((lines.map Text.trim).dropWhile (·.isEmpty)).takeWhile fun l =>
    !l.isEmpty && l.head? != some '@'
  if text.isEmpty then none else some (" ".intercalate (text.map String.ofList))

/-! ## Event types -/

/-- What stands between a `<` and a `>` that ends the line. -/
def angled? : List Char → Option (List Char)
  | '<' :: cs =>
    if cs.getLast? = some '>' ∧ cs.dropLast ≠ [] ∧ '\n' ∉ cs.dropLast then some cs.dropLast
    else none
  | _ => none

/-- **The detail type of a documented event type** — none for `Event`, `T` for `CustomEvent<T>`,
unknown for a bare `CustomEvent`, and any other type stands for the detail itself. -/
def detailOfEventType (type : String) : Option String :=
  let type := Text.trim type.toList
  if type = [] ∨ type = "Event".toList then none
  else match Text.dropLead? "CustomEvent".toList type with
    | some [] => some "unknown"
    | some rest =>
      match angled? (Text.skipBlank rest) with
      | some detail => some (String.ofList (Text.trim detail))
      | none => some (String.ofList type)
    | none => some (String.ofList type)

/-! ## Tags -/

/-- A tag line of a doc block. -/
inductive DocTag where
  | event (e : Event)
  | slot (name : String)
deriving DecidableEq, Repr

/-- The text up to the brace that closes a type; one level of braces may stand in it.  The first
argument holds, reversed, what has been read, and the second says whether an inner brace is open. -/
def closeType? : List Char → Bool → List Char → Option (List Char × List Char)
  | type, false, '}' :: cs => some (type.reverse, cs)
  | type, true, '}' :: cs => closeType? ('}' :: type) false cs
  | type, false, '{' :: cs => closeType? ('{' :: type) true cs
  | _, true, '{' :: _ => none
  | type, inner, c :: cs => closeType? (c :: type) inner cs
  | _, _, [] => none

/-- The characters of an event name after the first. -/
def isEventNameChar (c : Char) : Bool := Text.isWord c || c == ':' || c == '.' || c == '-'

/-- An event tag: `@fires` or `@event`, a type in braces, a name. -/
def eventTag? (cs : List Char) : Option (Event × List Char) := do
  let cs ← Text.dropLead? "@fires".toList cs <|> Text.dropLead? "@event".toList cs
  if !Text.endsWord cs then none
  let cs ← Text.skipBlank? cs
  match cs with
  | '{' :: cs =>
    let (type, cs) ← closeType? [] false cs
    let (name, rest) ← Text.name? isEventNameChar (← Text.skipBlank? cs)
    some (⟨String.ofList name, detailOfEventType (String.ofList type)⟩, rest)
  | cs =>
    let (name, rest) ← Text.name? isEventNameChar cs
    some (⟨String.ofList name, none⟩, rest)

/-- Whether a character is a space or a tab. -/
def isSpaceOrTab (c : Char) : Bool := c == ' ' || c == '\t'

/-- The characters of a slot name after the first. -/
def isSlotNameChar (c : Char) : Bool := Text.isWord c || c == '-'

/-- A slot tag: `@slot` and a name; without one it is the default slot. -/
def slotTag? (cs : List Char) : Option (String × List Char) := do
  let cs ← Text.dropLead? "@slot".toList cs
  if !Text.endsWord cs then none
  match Text.name? isSlotNameChar (cs.dropWhile isSpaceOrTab) with
  | some (name, rest) => some (String.ofList name, rest)
  | none => some ("", cs)

/-- The tag of a line; an event tag wins over a slot tag. -/
def DocTag.ofLine? (line : List Char) : Option DocTag :=
  match Text.search eventTag? line with
  | some e => some (.event e)
  | none => (Text.search slotTag? line).map .slot

/-- The event of an event tag. -/
def DocTag.event? : DocTag → Option Event
  | event e => some e
  | slot _ => none

/-- The name of a slot tag. -/
def DocTag.slot? : DocTag → Option String
  | event _ => none
  | slot name => some name

/-! ## Documentation -/

/-- The documentation of a class. -/
structure ClassDoc where
  description : Option String
  events : List Event
  slots : List String
deriving DecidableEq, Inhabited, Repr

/-- Events with the first one kept of each name. -/
def firstPerName (es : List Event) : List Event := es.eraseDupsBy fun a b => a.name == b.name

/-- The lines of the last doc block of a text. -/
def lastDocLines (region : String) : List (List Char) :=
  ((docBlocks none region.toList).getLast?.map docLines).getD []

/-- The tag lines of the last doc block of a text. -/
def docTags (region : String) : List DocTag := (lastDocLines region).filterMap DocTag.ofLine?

/-- **The documentation of a class**, read from the text between the statement before it and its
body. -/
def ClassDoc.ofRegion (region : String) : ClassDoc where
  description := docDescription (lastDocLines region)
  events := firstPerName ((docTags region).filterMap DocTag.event?)
  slots := ((docTags region).filterMap DocTag.slot?).eraseDups

end ElementBindings
