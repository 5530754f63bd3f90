import ElementBindings.Element.Dispatch
import ElementBindings.Proofs.Text.Scan
import ElementBindings.Script.Token

/-!
# Proofs/Element/DispatchSites — which dispatch sites of a class body are read

A body is free text with dispatch sites in it (`Dispatches`).  A site is read whole, however its
detail type nests, if the type stands on one line with its brackets (`site?_written`); with a line
feed beside its type it is not read at all (`site?_eq_none`).  So the events of a body are those of
the sites of the first kind, each name once (`Dispatches.dispatchedEvents_eq`).
-/

namespace ElementBindings

/-! ## Sites -/

/-- Whether a character of a script is white space between tokens. -/
def isTokenSpace (c : Char) : Bool := Script.isLineEnd c || Script.isSpace c

/-- **What a dispatch site constructs**: an event, a custom event, or a custom event of a detail
type.  White space may stand behind the name of the class, and before and after the type. -/
inductive Construction where
  | event
  | customEvent
  | typed (behind before type after : List Char)

namespace Construction

/-- The class of the event. -/
def className : Construction → String
  | event => "Event"
  | customEvent | typed .. => "CustomEvent"

/-- The detail type in its brackets, as it is written. -/
def brackets : Construction → List Char
  | typed behind before type after => behind ++ '<' :: (before ++ type ++ after ++ ['>'])
  | _ => []

/-- The detail type of the event. -/
def detail : Construction → Option String
  | event => none
  | customEvent => some "unknown"
  | typed _ _ type _ => some (String.ofList type)

/-- The detail that a type makes. -/
def detailOf : Construction → String → Option String
  | event => fun _ => none
  | customEvent | typed .. => some

/-- The detail type, if it is stated. -/
def type? : Construction → Option (List Char)
  | typed _ _ type _ => some type
  | _ => none

/-- The white space between the brackets and the detail type. -/
def besideType : Construction → List Char
  | typed _ before _ after => before ++ after
  | _ => []

/-- All white space inside. -/
def gaps : Construction → List Char
  | typed behind before _ after => behind ++ (before ++ after)
  | _ => []

end Construction

/-- **A detail type on one line**, without white space at its ends and without a parenthesis. -/
structure IsLineType (type : List Char) : Prop where
  ne_nil : type ≠ []
  trimmed : Text.trim type = type
  one_line : '\n' ∉ type
  no_parenthesis : '(' ∉ type

/-- **A dispatch site**, up to the quote that ends the name of the event. -/
structure DispatchSite where
  behindNew : List Char
  made : Construction
  beforeParenthesis : List Char
  beforeName : List Char
  quote : Char
  name : List Char
  behindNew_ne : behindNew ≠ []
  space : ∀ c ∈ behindNew ++ made.gaps ++ beforeParenthesis ++ beforeName, isTokenSpace c = true
  type_line : ∀ type ∈ made.type?, IsLineType type
  quote_isQuote : Text.isQuote quote = true
  name_ne : name ≠ []
  name_plain : ∀ c ∈ name, (Text.isQuote c || c == '$') = false

namespace DispatchSite

/-- The argument of the site, from its parenthesis on. -/
def argument (s : DispatchSite) : List Char :=
  '(' :: (s.beforeName ++ s.quote :: (s.name ++ [s.quote]))

/-- The site as it is written. -/
def written (s : DispatchSite) : List Char :=
  "new".toList ++ (s.behindNew ++ (s.made.className.toList ++ (s.made.brackets
    ++ (s.beforeParenthesis ++ s.argument))))

/-- The event that the site dispatches. -/
def event (s : DispatchSite) : Event := ⟨String.ofList s.name, s.made.detail⟩

/-- The white space between the tokens of the site. -/
def gaps (s : DispatchSite) : List Char :=
  s.behindNew ++ s.made.gaps ++ s.beforeParenthesis ++ s.beforeName

/-- Whether the detail type, if there is one, stands on one line with its brackets. -/
def isOnOneLine (s : DispatchSite) : Bool := !s.made.besideType.contains '\n'

end DispatchSite

/-! ## Names of events -/

variable {gap gap' name rest type cs after : List Char} {quote : Char}

/-- **The name of an event is read up to the quote behind it**, over white space before the
parenthesis and before the first quote. -/
theorem siteName?_append (hgap : ∀ c ∈ gap, Text.isBlank c = true)
    (hgap' : ∀ c ∈ gap', Text.isBlank c = true) (hquote : Text.isQuote quote = true)
    (hne : name ≠ []) (hname : ∀ c ∈ name, (Text.isQuote c || c == '$') = false)
    (rest : List Char) :
    siteName? (gap ++ '(' :: (gap' ++ quote :: (name ++ quote :: rest)))
      = some (String.ofList name, rest) := by
  have hblank : Text.isBlank quote = false := by
    simp only [Text.isQuote, Bool.or_eq_true, beq_iff_eq] at hquote
    rcases hquote with (rfl | rfl) | rfl <;> decide
  have hbreak : Text.breakAt (fun c => Text.isQuote c || c == '$') (name ++ quote :: rest)
      = (name, quote :: rest) := by
    have hpos : ∀ c ∈ name, (!(Text.isQuote c || c == '$')) = true := fun c hc => by
      rw [hname c hc, Bool.not_false]
    rw [Text.breakAt, List.takeWhile_append_of_pos hpos, List.dropWhile_append_of_pos hpos,
      List.takeWhile_cons_of_neg (by simp [hquote]), List.dropWhile_cons_of_neg (by simp [hquote]),
      List.append_nil]
  have hempty : name.isEmpty = false := by simpa using hne
  rw [siteName?, Text.skipBlank_append hgap (by decide), Text.char?, if_pos rfl]
  simp only [Option.bind_eq_bind, Option.bind_some, Text.skipBlank_append hgap' hblank, hbreak,
    hquote, hempty, Bool.and_self, Bool.not_false, if_true]

/-- **No name is read before a bracket that closes**, unless a parenthesis opens before it. -/
theorem siteName?_eq_none (h : '(' ∉ cs) (after : List Char) :
    siteName? (cs ++ '>' :: after) = none := by
  obtain ⟨c, tail, hskip, hc⟩ :
      ∃ c tail, Text.skipBlank (cs ++ '>' :: after) = c :: tail ∧ c ≠ '(' := by
    rw [Text.skipBlank, List.dropWhile_append]
    split
    · exact ⟨'>', after, List.dropWhile_cons_of_neg (by decide), by decide⟩
    · next hne =>
      obtain ⟨c, tail, hcs⟩ := List.exists_cons_of_ne_nil (mt List.isEmpty_iff.2 hne)
      refine ⟨c, tail ++ '>' :: after, by rw [hcs]; rfl, ?_⟩
      rintro rfl
      exact h ((List.dropWhile_sublist Text.isBlank).subset (hcs ▸ List.mem_cons_self))
  rw [siteName?, hskip, Text.char?, if_neg hc]
  rfl

/-! ## Detail types -/

/-- **A detail type is read up to the bracket behind which a name stands**, whatever brackets stand
in it. -/
theorem typedSite?_append (hline : '\n' ∉ cs) (hparenthesis : '(' ∉ cs) {read : List Char}
    (hne : read ++ cs ≠ []) {event : String} (hname : siteName? after = some (event, rest)) :
    typedSite? read (cs ++ '>' :: after)
      = some ((String.ofList (read.reverse ++ cs), event), rest) := by
  induction cs generalizing read with
  | nil =>
    rw [List.append_nil] at hne
    rw [List.nil_append, typedSite?, if_pos ⟨rfl, hne⟩, hname, List.append_nil]
  | cons c cs ih =>
    rw [List.mem_cons, not_or] at hline hparenthesis
    have hmore := @ih hline.2 hparenthesis.2 (c :: read) (List.cons_ne_nil _ _)
    rw [List.reverse_cons, List.append_assoc, List.singleton_append] at hmore
    rw [List.cons_append, typedSite?]
    split
    · -- behind a bracket of the type itself no name is read
      rw [siteName?_eq_none hparenthesis.2]
      exact hmore
    · rw [if_neg (Ne.symm hline.1)]
      exact hmore

/-- **A line feed before that bracket ends the search for it.** -/
theorem typedSite?_eq_none (hline : '\n' ∈ cs) (hparenthesis : '(' ∉ cs) (read after : List Char) :
    typedSite? read (cs ++ '>' :: after) = none := by
  induction cs generalizing read with
  | nil => exact absurd hline List.not_mem_nil
  | cons c cs ih =>
    rw [List.mem_cons, not_or] at hparenthesis
    rw [List.cons_append, typedSite?]
    split
    · next hclose =>
      rw [siteName?_eq_none hparenthesis.2]
      refine ih ((List.mem_cons.1 hline).resolve_left ?_) hparenthesis.2 _
      rw [hclose.1]
      decide
    · split
      · rfl
      · next hc => exact ih ((List.mem_cons.1 hline).resolve_left (Ne.symm hc)) hparenthesis.2 _

/-! ## Reading a site -/

/-- What is read behind the class of an event; `detail` says which detail a type makes. -/
def behindClass? (detail : String → Option String) (cs : List Char) : Option (Event × List Char) :=
  match Text.skipBlank cs with
  | '<' :: cs =>
    (typedSite? [] cs).bind fun p => some (⟨p.1.2, detail (Text.trimmed p.1.1)⟩, p.2)
  | cs => (siteName? cs).bind fun p => some (⟨p.1, detail "unknown"⟩, p.2)

theorem behindClass?_bracket (hgap : ∀ c ∈ gap, Text.isBlank c = true)
    (detail : String → Option String) (cs : List Char) :
    behindClass? detail (gap ++ '<' :: cs)
      = (typedSite? [] cs).bind fun p => some (⟨p.1.2, detail (Text.trimmed p.1.1)⟩, p.2) := by
  rw [behindClass?, Text.skipBlank_append hgap (by decide)]
  rfl

theorem behindClass?_parenthesis (hgap : ∀ c ∈ gap, Text.isBlank c = true)
    (detail : String → Option String) (cs : List Char) :
    behindClass? detail (gap ++ '(' :: cs)
      = (siteName? ('(' :: cs)).bind fun p => some (⟨p.1, detail "unknown"⟩, p.2) := by
  rw [behindClass?, Text.skipBlank_append hgap (by decide)]
  rfl

/-- **Behind `new` and white space, the class of an event is read.** -/
theorem site?_className (made : Construction) (hne : gap ≠ [])
    (hgap : ∀ c ∈ gap, Text.isBlank c = true) (cs : List Char) :
    site? ("new".toList ++ (gap ++ (made.className.toList ++ cs)))
      = behindClass? made.detailOf cs := by
  have hnew : Text.dropLead? "new".toList ("new".toList ++ (gap ++ (made.className.toList ++ cs)))
      = some (gap ++ (made.className.toList ++ cs)) := Text.dropLead?_eq_some.2 rfl
  have hskip : Text.skipBlank? (gap ++ (made.className.toList ++ cs))
      = some (made.className.toList ++ cs) := by
    cases made <;> rw [Construction.className] <;>
      exact Text.skipBlank?_append hne hgap (by decide) _
  rw [site?, hnew]
  simp only [Option.bind_eq_bind, Option.bind_some, hskip]
  cases made with
  | event =>
    have hcustom : Text.dropLead? "CustomEvent".toList ("Event".toList ++ cs) = none := rfl
    have hplain : Text.dropLead? "Event".toList ("Event".toList ++ cs) = some cs :=
      Text.dropLead?_eq_some.2 rfl
    simp only [Construction.className, hcustom, hplain, Option.map_some, Option.bind_some]
    rfl
  | customEvent | typed =>
    have hcustom : Text.dropLead? "CustomEvent".toList ("CustomEvent".toList ++ cs) = some cs :=
      Text.dropLead?_eq_some.2 rfl
    simp only [Construction.className, hcustom]
    rfl

namespace DispatchSite

variable {s : DispatchSite}

/-- White space that the patterns know, gap by gap. -/
theorem blank_of_gaps (h : ∀ c ∈ s.gaps, Text.isBlank c = true) :
    (∀ c ∈ s.behindNew, Text.isBlank c = true) ∧ (∀ c ∈ s.made.gaps, Text.isBlank c = true) ∧
      (∀ c ∈ s.beforeParenthesis, Text.isBlank c = true) ∧
      ∀ c ∈ s.beforeName, Text.isBlank c = true := by
  simpa only [gaps, List.forall_mem_append, and_assoc] using h

/-- The name of a site is read, over white space before its parenthesis. -/
theorem siteName?_argument (h : ∀ c ∈ s.gaps, Text.isBlank c = true)
    (hgap : ∀ c ∈ gap, Text.isBlank c = true) (rest : List Char) :
    siteName? (gap ++ (s.argument ++ rest)) = some (String.ofList s.name, rest) := by
  have hname := siteName?_append hgap (blank_of_gaps h).2.2.2 s.quote_isQuote s.name_ne
    s.name_plain rest
  simpa only [argument, List.cons_append, List.append_assoc, List.nil_append] using hname

/-- …and so it is behind a class without a detail type. -/
theorem behindClass?_argument (h : ∀ c ∈ s.gaps, Text.isBlank c = true)
    (detail : String → Option String) (rest : List Char) :
    behindClass? detail (s.beforeParenthesis ++ (s.argument ++ rest))
      = some (⟨String.ofList s.name, detail "unknown"⟩, rest) := by
  have hname : siteName? ([] ++ (s.argument ++ rest)) = some (String.ofList s.name, rest) :=
    siteName?_argument h (by simp) rest
  rw [List.nil_append, argument, List.cons_append] at hname
  rw [argument, List.cons_append, behindClass?_parenthesis (blank_of_gaps h).2.2.1, hname]
  rfl

theorem written_append (s : DispatchSite) (rest : List Char) :
    s.written ++ rest = "new".toList ++ (s.behindNew ++ (s.made.className.toList
      ++ (s.made.brackets ++ (s.beforeParenthesis ++ (s.argument ++ rest))))) := by
  simp only [written, List.append_assoc]

section Typed

variable {behind before after : List Char} (hmade : s.made = .typed behind before type after)
include hmade

/-- The detail type that a site states is one that its brackets can hold. -/
theorem isLineType_of_typed : IsLineType type := s.type_line type (by rw [hmade]; exact rfl)

theorem blank_of_typed (h : ∀ c ∈ s.gaps, Text.isBlank c = true) :
    (∀ c ∈ behind, Text.isBlank c = true) ∧ (∀ c ∈ before, Text.isBlank c = true) ∧
      ∀ c ∈ after, Text.isBlank c = true := by
  have hgaps := (blank_of_gaps h).2.1
  simpa only [hmade, Construction.gaps, List.forall_mem_append] using hgaps

/-- A line feed stands between the brackets only beside the type. -/
theorem newline_mem_iff : '\n' ∈ before ++ type ++ after ↔ s.isOnOneLine = false := by
  have htype := (isLineType_of_typed hmade).one_line
  simp [isOnOneLine, hmade, Construction.besideType, htype, or_iff_not_imp_left]

/-- No parenthesis stands between the brackets. -/
theorem parenthesis_notMem (h : ∀ c ∈ s.gaps, Text.isBlank c = true) :
    '(' ∉ before ++ type ++ after := by
  obtain ⟨-, hbefore, hafter⟩ := blank_of_typed hmade h
  have hblank : ¬ Text.isBlank '(' = true := by decide
  simp only [List.mem_append, not_or]
  exact ⟨⟨fun hmem => hblank (hbefore _ hmem), (isLineType_of_typed hmade).no_parenthesis⟩,
    fun hmem => hblank (hafter _ hmem)⟩

/-- What is read at a site that states a detail type. -/
theorem site?_typed (h : ∀ c ∈ s.gaps, Text.isBlank c = true) (rest : List Char) :
    site? (s.written ++ rest) = (typedSite? []
        ((before ++ type ++ after) ++ '>' :: (s.beforeParenthesis ++ (s.argument ++ rest)))).bind
      fun p => some (⟨p.1.2, some (Text.trimmed p.1.1)⟩, p.2) := by
  have hbrackets : s.made.brackets ++ (s.beforeParenthesis ++ (s.argument ++ rest))
      = behind ++ '<' :: ((before ++ type ++ after)
        ++ '>' :: (s.beforeParenthesis ++ (s.argument ++ rest))) := by
    rw [hmade, Construction.brackets]
    simp only [List.append_assoc, List.cons_append, List.nil_append]
  rw [written_append, hbrackets, site?_className s.made s.behindNew_ne (blank_of_gaps h).1,
    behindClass?_bracket (blank_of_typed hmade h).1, hmade]
  rfl

end Typed

/-- **A site is read whole if its white space is known to the patterns and its type stands on one
line with its brackets.** -/
theorem site?_written (h : ∀ c ∈ s.gaps, Text.isBlank c = true) (hline : s.isOnOneLine = true)
    (rest : List Char) : site? (s.written ++ rest) = some (s.event, rest) := by
  obtain ⟨hnew, -, hparenthesis, -⟩ := blank_of_gaps h
  cases hmade : s.made with
  | event =>
    rw [written_append, hmade, event, hmade]
    exact (site?_className .event s.behindNew_ne hnew _).trans (behindClass?_argument h _ rest)
  | customEvent =>
    rw [written_append, hmade, event, hmade]
    exact (site?_className .customEvent s.behindNew_ne hnew _).trans (behindClass?_argument h _ rest)
  | typed behind before type after =>
    have htype := isLineType_of_typed hmade
    have hnewline : '\n' ∉ before ++ type ++ after := by
      rw [newline_mem_iff hmade, hline]
      decide
    have hne : [] ++ (before ++ type ++ after) ≠ [] := by simp [htype.ne_nil]
    have hread := typedSite?_append hnewline (parenthesis_notMem hmade h) hne
      (siteName?_argument h hparenthesis rest)
    obtain ⟨-, hbefore, hafter⟩ := blank_of_typed hmade h
    rw [site?_typed hmade h, hread, Option.bind_some, event, hmade, Construction.detail,
      Text.trimmed, String.toList_ofList, List.reverse_nil, List.nil_append,
      Text.trim_append hbefore hafter, htype.trimmed]

/-- **…and with a line feed beside its type it is not read.** -/
theorem site?_eq_none (h : ∀ c ∈ s.gaps, Text.isBlank c = true) (hline : s.isOnOneLine = false)
    (rest : List Char) : site? (s.written ++ rest) = none := by
  have hbeside : '\n' ∈ s.made.besideType := by simpa [isOnOneLine] using hline
  cases hmade : s.made with
  | event => exact absurd (hmade ▸ hbeside) List.not_mem_nil
  | customEvent => exact absurd (hmade ▸ hbeside) List.not_mem_nil
  | typed behind before type after =>
    rw [site?_typed hmade h, typedSite?_eq_none ((newline_mem_iff hmade).2 hline)
      (parenthesis_notMem hmade h)]
    rfl

theorem written_ne_nil (s : DispatchSite) : s.written ≠ [] := List.cons_ne_nil 'n' _

/-- A site ends with a quote. -/
theorem exists_written_eq (s : DispatchSite) : ∃ cs, s.written = cs ++ [s.quote] := by
  refine ⟨"new".toList ++ (s.behindNew ++ (s.made.className.toList ++ (s.made.brackets
    ++ (s.beforeParenthesis ++ '(' :: (s.beforeName ++ s.quote :: s.name))))), ?_⟩
  simp only [written, argument, List.append_assoc, List.cons_append]

end DispatchSite

/-! ## Bodies -/

/-- Text in which no `new` stands. -/
def NoNew (cs : List Char) : Prop := ¬ "new".toList <:+: cs

instance (cs : List Char) : Decidable (NoNew cs) :=
  inferInstanceAs (Decidable (¬ "new".toList <:+: cs))

/-- **Text with dispatch sites in it**, and no `new` between them. -/
inductive Dispatches : List DispatchSite → List Char → Prop where
  | text {cs : List Char} (h : NoNew cs) : Dispatches [] cs
  | site {filler cs : List Char} {sites : List DispatchSite} (s : DispatchSite)
      (h : NoNew filler) (hcs : Dispatches sites cs) :
      Dispatches (s :: sites) (filler ++ (s.written ++ cs))

theorem new_isPrefix_of_site? {found : Event × List Char} (h : site? cs = some found) :
    "new".toList <+: cs := by
  obtain ⟨after, hafter, -⟩ := Option.bind_eq_some_iff.1 h
  exact ⟨after, (Text.dropLead?_eq_some.1 hafter).symm⟩

/-- A `new` at the start of two texts stands in the first or goes on with one of its letters in the
second. -/
theorem new_isPrefix_append {place : List Char} (hne : place ≠ [])
    (h : "new".toList <+: place ++ cs) :
    "new".toList <+: place ∨ (place = ['n'] ∧ cs.head? = some 'e') ∨
      (place = ['n', 'e'] ∧ cs.head? = some 'w') := by
  obtain ⟨tail, htail⟩ := h
  change 'n' :: 'e' :: 'w' :: tail = place ++ cs at htail
  match place with
  | [] => exact absurd rfl hne
  | [a] =>
    simp only [List.cons_append, List.cons.injEq, List.nil_append] at htail
    obtain ⟨rfl, rfl⟩ := htail
    exact Or.inr (Or.inl ⟨rfl, rfl⟩)
  | [a, b] =>
    simp only [List.cons_append, List.cons.injEq, List.nil_append] at htail
    obtain ⟨rfl, rfl, rfl⟩ := htail
    exact Or.inr (Or.inr ⟨rfl, rfl⟩)
  | a :: b :: c :: place =>
    simp only [List.cons_append, List.cons.injEq] at htail
    obtain ⟨rfl, rfl, rfl, -⟩ := htail
    exact Or.inl ⟨place, rfl⟩

/-- **Nothing is read in text without `new`**, up to the end or to the next site. -/
theorem scan_site?_append {filler : List Char} (h : NoNew filler)
    (hcs : ∀ c ∈ cs.head?, c = 'n') : Text.scan site? (filler ++ cs) = Text.scan site? cs := by
  refine Text.scan_append_of_forall fun place hplace hne => ?_
  cases hread : site? (place ++ cs) with
  | none => rfl
  | some found =>
    rcases new_isPrefix_append hne (new_isPrefix_of_site? hread) with hnew | ⟨-, hhead⟩ | ⟨-, hhead⟩
    · exact absurd (hnew.isInfix.trans hplace.isInfix) h
    · exact absurd (hcs _ hhead) (by decide)
    · exact absurd (hcs _ hhead) (by decide)

namespace DispatchSite

variable {s : DispatchSite}

/-- A place in a site ends with its quote. -/
theorem getLast?_of_suffix {place : List Char} (hplace : place <:+ s.written) (hne : place ≠ []) :
    place.getLast? = some s.quote := by
  obtain ⟨before, hbefore⟩ := hplace
  obtain ⟨lead, hlead⟩ := s.exists_written_eq
  rw [← List.getLast?_append_of_ne_nil before hne, hbefore, hlead, List.getLast?_concat]

/-- **A site that is not read is passed over**, if no other `new` stands in it. -/
theorem scan_site?_written (h : ∀ c ∈ s.gaps, Text.isBlank c = true) (hline : s.isOnOneLine = false)
    (hnew : NoNew s.written.tail) (cs : List Char) :
    Text.scan site? (s.written ++ cs) = Text.scan site? cs := by
  refine Text.scan_append_of_forall fun place hplace hne => ?_
  rcases List.suffix_cons_iff.1 hplace with rfl | htail
  · exact site?_eq_none h hline cs
  have hlast := getLast?_of_suffix hplace hne
  cases hread : site? (place ++ cs) with
  | none => rfl
  | some found =>
    have hquote := s.quote_isQuote
    -- a `new` that goes on behind the site would end in it with a letter
    rcases new_isPrefix_append hne (new_isPrefix_of_site? hread) with hin | ⟨rfl, -⟩ | ⟨rfl, -⟩
    · exact absurd (hin.isInfix.trans htail.isInfix) hnew
    · rw [← Option.some.inj hlast] at hquote
      exact absurd hquote (by decide)
    · rw [← Option.some.inj hlast] at hquote
      exact absurd hquote (by decide)

end DispatchSite

/-- **The sites that are read are those whose type stands on one line with its brackets.** -/
theorem Dispatches.dispatchSites_eq {sites : List DispatchSite} {body : List Char}
    (h : Dispatches sites body) (hblank : ∀ s ∈ sites, ∀ c ∈ s.gaps, Text.isBlank c = true)
    (hnew : ∀ s ∈ sites, s.isOnOneLine = false → NoNew s.written.tail) :
    dispatchSites (String.ofList body) = (sites.filter (·.isOnOneLine)).map (·.event) := by
  rw [dispatchSites, String.toList_ofList]
  induction h with
  | @text cs h =>
    have hend : Text.scan site? (cs ++ []) = Text.scan site? [] := scan_site?_append h (by simp)
    rwa [List.append_nil] at hend
  | @site filler cs sites s h hcs ih =>
    obtain ⟨hs, hblank⟩ := List.forall_mem_cons.1 hblank
    obtain ⟨hsnew, hnew⟩ := List.forall_mem_cons.1 hnew
    have hhead : ∀ c ∈ (s.written ++ cs).head?, c = 'n' := fun c hc => (Option.some.inj hc).symm
    rw [scan_site?_append h hhead, List.filter_cons]
    split
    · next hline =>
      rw [Text.scan_of_read s.written_ne_nil (DispatchSite.site?_written hs hline cs), ih hblank hnew]
      rfl
    · next hline =>
      have hline : s.isOnOneLine = false := by simpa using hline
      rw [DispatchSite.scan_site?_written hs hline (hsnew hline), ih hblank hnew]

/-! ## The events of a body -/

/-- **A body dispatches the events of its sites**, the first of each name with its detail.  White
space may stand between the tokens of a site as the patterns know it; but a site that has a line feed
between a bracket and its detail type is passed over. -/
theorem Dispatches.dispatchedEvents_eq {sites : List DispatchSite} {body : List Char}
    (h : Dispatches sites body) (hblank : ∀ s ∈ sites, ∀ c ∈ s.gaps, Text.isBlank c = true)
    (hnew : ∀ s ∈ sites, s.isOnOneLine = false → NoNew s.written.tail) :
    dispatchedEvents (String.ofList body)
      = firstPerName ((sites.filter (·.isOnOneLine)).map (·.event)) := by
  rw [dispatchedEvents, h.dispatchSites_eq hblank hnew]

/-- A custom event whose detail type has brackets in brackets, its name on a line of its own. -/
def itemOpenSite : DispatchSite where
  behindNew := [' ']
  made := .typed [] [] "Map<string, Array<\x7b id: string \x7d>>".toList []
  beforeParenthesis := []
  beforeName := "\n      ".toList
  quote := '\''
  name := "item-open".toList
  behindNew_ne := by decide
  space := List.all_eq_true.1 (by decide)
  type_line := by
    intro type htype
    obtain rfl := Option.some.inj htype
    exact ⟨by decide, by decide, by decide, by decide⟩
  quote_isQuote := by decide
  name_ne := by decide
  name_plain := by simp [Text.isQuote]

/-- An event without a detail. -/
def plainSite : DispatchSite where
  behindNew := [' ']
  made := .event
  beforeParenthesis := []
  beforeName := []
  quote := '"'
  name := "item-open".toList
  behindNew_ne := by decide
  space := List.all_eq_true.1 (by decide)
  type_line := by
    intro type htype
    exact absurd htype (Option.some_ne_none _).symm
  quote_isQuote := by decide
  name_ne := by decide
  name_plain := by simp [Text.isQuote]

/-- A custom event whose detail type stands on a line between its brackets. -/
def brokenSite : DispatchSite where
  behindNew := [' ']
  made := .typed [] "\n  ".toList "Detail".toList ['\n']
  beforeParenthesis := []
  beforeName := []
  quote := '"'
  name := "item-close".toList
  behindNew_ne := by decide
  space := List.all_eq_true.1 (by decide)
  type_line := by
    intro type htype
    obtain rfl := Option.some.inj htype
    exact ⟨by decide, by decide, by decide, by decide⟩
  quote_isQuote := by decide
  name_ne := by decide
  name_plain := by simp [Text.isQuote]

theorem dispatchedEvents_eq_itemOpen :
    ∃ body, Dispatches [itemOpenSite, brokenSite, plainSite] body ∧
      (∀ s ∈ [itemOpenSite, brokenSite, plainSite], ∀ c ∈ s.gaps, Text.isBlank c = true) ∧
      (∀ s ∈ [itemOpenSite, brokenSite, plainSite], s.isOnOneLine = false →
        NoNew s.written.tail) ∧
      dispatchedEvents (String.ofList body)
        = [⟨"item-open", some "Map<string, Array<\x7b id: string \x7d>>"⟩] := by
  have hbody : Dispatches [itemOpenSite, brokenSite, plainSite]
      ("this.dispatchEvent(".toList ++ (itemOpenSite.written
        ++ (")); ".toList ++ (brokenSite.written
          ++ (")); ".toList ++ (plainSite.written ++ "));".toList)))))) :=
    .site _ (by decide +kernel) (.site _ (by decide +kernel) (.site _ (by decide +kernel)
      (.text (by decide +kernel))))
  have hgaps : ∀ s ∈ [itemOpenSite, brokenSite, plainSite], s.gaps.all Text.isBlank = true := by
    decide +kernel
  have hblank : ∀ s ∈ [itemOpenSite, brokenSite, plainSite], ∀ c ∈ s.gaps,
      Text.isBlank c = true := fun s hs => List.all_eq_true.1 (hgaps s hs)
  have hnew : ∀ s ∈ [itemOpenSite, brokenSite, plainSite], s.isOnOneLine = false →
      NoNew s.written.tail := by decide +kernel
  exact ⟨_, hbody, hblank, hnew,
    (hbody.dispatchedEvents_eq hblank hnew).trans (by decide +kernel)⟩

/-- **A detail type between its brackets on a line of its own loses its event.** -/
theorem dispatchedEvents_lost :
    Dispatches [brokenSite] ([] ++ (brokenSite.written ++ [])) ∧
      String.ofList ([] ++ (brokenSite.written ++ []))
        = "new CustomEvent<\n  Detail\n>(\"item-close\"" ∧
      dispatchedEvents (String.ofList ([] ++ (brokenSite.written ++ [])))
        ≠ firstPerName ([brokenSite].map (·.event)) :=
  ⟨.site brokenSite (by decide) (.text (by decide)), by decide +kernel, by decide +kernel⟩

end ElementBindings
