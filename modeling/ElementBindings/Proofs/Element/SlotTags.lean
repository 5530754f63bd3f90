import ElementBindings.Element.Slots
import ElementBindings.Proofs.Text.Scan
import Mathlib.Data.Bool.AllAny

/-!
# Proofs/Element/SlotTags — what names a slot

A start tag is a list of attributes with quoted values (`Attribute`, `StartTag`).  The name of a slot
is read where text before a quote ends in `name` and an equals sign (`EndsInName`), be it the end of
a longer attribute name or of a value.  So attributes leave a slot as it is if they are plain
(`Attribute.IsPlain`), and no others do; and an element whose name begins with `slot` is passed over
if that name goes on as one word, and else is taken for a slot (`templateSlots_eq_iff`).
-/

namespace ElementBindings

/-! ## Attributes -/

/-- The white space of a tag. -/
def tagSpace : List Char := [' ', '\t', '\n', '\x0c', '\r']

/-- What separates attributes. -/
def tagGap : List Char := '/' :: tagSpace

theorem space_ne_nil : [' '] ≠ [] := List.cons_ne_nil _ _

theorem space_mem_tagGap : ∀ c ∈ [' '], c ∈ tagGap := List.all_iff_forall_prop.1 (by decide)

/-- What a value is put in. -/
def tagQuotes : List Char := ['"', '\'']

/-- **An attribute with a quoted value**, and the gap before it. -/
structure Attribute where
  gap : List Char
  name : List Char
  beforeEquals : List Char
  afterEquals : List Char
  quote : Char
  value : List Char
  gap_ne_nil : gap ≠ []
  gap_mem : ∀ c ∈ gap, c ∈ tagGap
  name_ne_nil : name ≠ []
  name_notMem : ∀ c ∈ name, c ∉ '=' :: '>' :: (tagQuotes ++ tagGap)
  beforeEquals_mem : ∀ c ∈ beforeEquals, c ∈ tagSpace
  afterEquals_mem : ∀ c ∈ afterEquals, c ∈ tagSpace
  quote_mem : quote ∈ tagQuotes
  value_notMem : ∀ c ∈ value, c ∉ '>' :: '$' :: tagQuotes

/-- A start tag without its name: attributes, and what stands behind the last one. -/
structure StartTag where
  attributes : List Attribute
  close : List Char
  close_mem : ∀ c ∈ close, c ∈ tagGap

namespace Attribute

/-- An attribute up to the quote before its value. -/
def head (a : Attribute) : List Char :=
  a.gap ++ (a.name ++ (a.beforeEquals ++ '=' :: a.afterEquals))

/-- An attribute as text. -/
def written (a : Attribute) : List Char := a.head ++ a.quote :: (a.value ++ [a.quote])

/-- Whether an attribute is called `name`. -/
def isNamed (a : Attribute) : Bool := a.name == "name".toList

/-- An attribute behind a space, with no other space in it. -/
def compact (name : List Char) (quote : Char) (value : List Char) (hne : name ≠ [])
    (hname : ∀ c ∈ name, c ∉ '=' :: '>' :: (tagQuotes ++ tagGap)) (hquote : quote ∈ tagQuotes)
    (hvalue : ∀ c ∈ value, c ∉ '>' :: '$' :: tagQuotes) : Attribute where
  gap := [' ']
  name := name
  beforeEquals := []
  afterEquals := []
  quote := quote
  value := value
  gap_ne_nil := space_ne_nil
  gap_mem := space_mem_tagGap
  name_ne_nil := hne
  name_notMem := hname
  beforeEquals_mem := List.forall_mem_nil _
  afterEquals_mem := List.forall_mem_nil _
  quote_mem := hquote
  value_notMem := hvalue

end Attribute

namespace StartTag

/-- A start tag that ends behind its last attribute. -/
def ofList (attributes : List Attribute) : StartTag := ⟨attributes, [], List.forall_mem_nil _⟩

/-- What stands between the name of a tag and its end. -/
def inside (t : StartTag) : List Char := t.attributes.flatMap (·.written) ++ t.close

/-- A start tag as text; its name is `slot` and what is given. -/
def written (t : StartTag) (rest : List Char) : List Char :=
  "<slot".toList ++ (rest ++ (t.inside ++ ['>']))

/-- The values of the attributes called `name`. -/
def names (t : StartTag) : List (List Char) := (t.attributes.filter (·.isNamed)).map (·.value)

end StartTag

/-- An element as text, with its name after `slot`, its start tag and its content. -/
def slotElement (rest : List Char) (t : StartTag) (content : List Char) : List Char :=
  t.written rest ++ (content ++ ("</slot".toList ++ (rest ++ ['>'])))

/-! ## Names before a quote -/

/-- Whether a word goes on at the end of a text; `inWord` tells whether one goes on at its start. -/
def endsInWord (inWord : Bool) (cs : List Char) : Bool := cs.foldl (fun _ c => Text.isWord c) inWord

/-- The word `name` and an equals sign, with white space behind each. -/
def IsNameEquals (cs : List Char) : Prop :=
  ∃ before after, cs = "name".toList ++ (before ++ '=' :: after) ∧
    (∀ c ∈ before, Text.isBlank c = true) ∧ ∀ c ∈ after, Text.isBlank c = true

/-- **Whether a text ends in `name` and an equals sign**, where the `name` begins a word. -/
def EndsInName (inWord : Bool) (cs : List Char) : Prop :=
  ∃ lead place, cs = lead ++ place ∧ endsInWord inWord lead = false ∧ IsNameEquals place

/-- Text without quotes. -/
def NoQuotes (cs : List Char) : Prop := ∀ c ∈ cs, c ∉ tagQuotes

section Segments

variable {inWord : Bool} {c quote : Char} {cs value rest : List Char}
  {found : String × List Char}

/-- No word goes on behind characters of which none belongs to a word. -/
theorem endsInWord_of_forall (h : ∀ c ∈ cs, Text.isWord c = false) :
    endsInWord false cs = false := by
  induction cs with
  | nil => rfl
  | cons c cs ih =>
    rw [List.forall_mem_cons] at h
    rw [endsInWord, List.foldl_cons, h.1]
    exact ih h.2

theorem endsInName_nil : ¬ EndsInName inWord [] := by
  rintro ⟨lead, place, hcs, -, before, after, rfl, -⟩
  exact absurd hcs (by simp)

theorem endsInName_cons : EndsInName inWord (c :: cs)
    ↔ (inWord = false ∧ IsNameEquals (c :: cs)) ∨ EndsInName (Text.isWord c) cs := by
  constructor
  · rintro ⟨lead, place, hcs, hlead, hplace⟩
    cases lead with
    | nil => exact Or.inl ⟨hlead, hcs ▸ hplace⟩
    | cons d lead =>
      obtain ⟨rfl, rfl⟩ := List.cons.inj hcs
      exact Or.inr ⟨lead, place, rfl, hlead, hplace⟩
  · rintro (⟨hword, h⟩ | ⟨lead, place, rfl, hlead, hplace⟩)
    · exact ⟨[], c :: cs, rfl, hword, h⟩
    · exact ⟨c :: lead, place, rfl, hlead, hplace⟩

/-- Text that ends in a name has the word in it. -/
theorem EndsInName.infix (h : EndsInName inWord cs) : "name".toList <:+: cs := by
  obtain ⟨lead, place, rfl, -, before, after, rfl, -⟩ := h
  exact List.infix_append' _ _ _

theorem isBlank_of_mem_tagQuotes (hq : quote ∈ tagQuotes) : Text.isBlank quote = false :=
  List.all_iff_forall_prop.1 (by decide : tagQuotes.all (Text.isBlank · = false)) quote hq

/-- Skipping white space stops at a quote at the latest. -/
theorem skipBlank_append_quote (hq : quote ∈ tagQuotes) (cs rest : List Char) :
    Text.skipBlank (cs ++ quote :: rest) = Text.skipBlank cs ++ quote :: rest := by
  rw [Text.skipBlank, List.dropWhile_append]
  split
  · next hnil =>
    rw [Text.skipBlank, List.isEmpty_iff.1 hnil]
    exact Text.skipBlank_cons (isBlank_of_mem_tagQuotes hq) rest
  · rfl

/-- What is skipped is white space. -/
theorem exists_append_skipBlank (cs : List Char) :
    ∃ gap, cs = gap ++ Text.skipBlank cs ∧ ∀ c ∈ gap, Text.isBlank c = true :=
  ⟨cs.takeWhile Text.isBlank, List.takeWhile_append_dropWhile.symm,
    List.all_eq_true.1 List.all_takeWhile⟩

theorem char?_eq_some {d : Char} : Text.char? d cs = some rest ↔ cs = d :: rest := by
  cases cs <;> simp [Text.char?]

theorem mem_tagQuotes_of_plainValue? (h : plainValue? (c :: cs) = some found) : c ∈ tagQuotes := by
  rw [plainValue?, Option.ite_none_right_eq_some] at h
  simpa [tagQuotes] using h.1

/-- **Behind `name` and an equals sign, a value is read…** -/
theorem nameAttribute?_of_isNameEquals (hq : quote ∈ tagQuotes) (h : IsNameEquals cs) :
    nameAttribute? (cs ++ quote :: rest) = plainValue? (quote :: rest) := by
  obtain ⟨before, after, rfl, hbefore, hafter⟩ := h
  have hlead : Text.dropLead? "name".toList
      ("name".toList ++ (before ++ '=' :: after) ++ quote :: rest)
        = some (before ++ '=' :: (after ++ quote :: rest)) :=
    Text.dropLead?_eq_some.2 (by simp)
  rw [nameAttribute?, hlead]
  simp only [Option.bind_eq_bind, Option.bind_some]
  rw [Text.skipBlank_append hbefore (by decide), Text.char?, if_pos rfl, Option.bind_some,
    Text.skipBlank_append hafter (isBlank_of_mem_tagQuotes hq)]

/-- **…and nowhere else.** -/
theorem isNameEquals_of_nameAttribute? (hcs : NoQuotes cs) (hq : quote ∈ tagQuotes)
    (h : nameAttribute? (cs ++ quote :: rest) = some found) : IsNameEquals cs := by
  obtain ⟨behindName, hname, h⟩ := Option.bind_eq_some_iff.1 h
  obtain ⟨behindEquals, hequals, hvalue⟩ := Option.bind_eq_some_iff.1 h
  have hnoName : ∀ q ∈ tagQuotes, q ∉ "name".toList := List.all_iff_forall_prop.1 (by decide)
  obtain ⟨cs, rfl⟩ := List.prefix_of_append_cons (hnoName quote hq)
    ⟨behindName, (Text.dropLead?_eq_some.1 hname).symm⟩
  obtain rfl : cs ++ quote :: rest = behindName := by
    simpa using Text.dropLead?_eq_some.1 hname
  rw [char?_eq_some, skipBlank_append_quote hq] at hequals
  obtain ⟨before, hcut, hbefore⟩ := exists_append_skipBlank cs
  cases hskip : Text.skipBlank cs with
  | nil =>
    rw [hskip] at hequals
    obtain ⟨rfl, -⟩ := List.cons.inj hequals
    exact absurd hq (by decide)
  | cons d after =>
    rw [hskip] at hequals hcut
    obtain ⟨rfl, rfl⟩ := List.cons.inj hequals
    change plainValue? (Text.skipBlank (after ++ quote :: rest)) = some found at hvalue
    rw [skipBlank_append_quote hq] at hvalue
    cases hafter : Text.skipBlank after with
    | nil =>
      exact ⟨before, after, congrArg _ hcut, hbefore, List.dropWhile_eq_nil_iff.1 hafter⟩
    | cons d more =>
      rw [hafter] at hvalue
      have hd : d ∈ after := (List.dropWhile_sublist _).subset (hafter ▸ List.mem_cons_self)
      refine absurd (mem_tagQuotes_of_plainValue? hvalue) (hcs d ?_)
      rw [hcut]
      simp [hd]

/-! ## Reading text up to a quote -/

/-- A place where no name is read is passed over. -/
theorem slotName?_cons_of_not (hcs : NoQuotes (c :: cs)) (hq : quote ∈ tagQuotes)
    (h : ¬ (inWord = false ∧ IsNameEquals (c :: cs))) :
    slotName? inWord (c :: cs ++ quote :: rest)
      = slotName? (Text.isWord c) (cs ++ quote :: rest) := by
  rw [List.cons_append, slotName?]
  cases inWord with
  | true => rfl
  | false =>
    cases hread : nameAttribute? (c :: (cs ++ quote :: rest)) with
    | none => rfl
    | some found => exact absurd ⟨rfl, isNameEquals_of_nameAttribute? hcs hq hread⟩ h

/-- **Text up to a quote is passed over if it does not end in a name…** -/
theorem slotName?_append_quote (hcs : NoQuotes cs) (hq : quote ∈ tagQuotes)
    (h : ¬ EndsInName inWord cs) (rest : List Char) :
    slotName? inWord (cs ++ quote :: rest) = slotName? false rest := by
  -- place by place, up to the quote, which begins no name itself
  induction cs generalizing inWord with
  | nil =>
    have hread : nameAttribute? (quote :: rest) = none := by
      cases hread : nameAttribute? (quote :: rest) with
      | none => rfl
      | some found =>
        obtain ⟨_, _, hnil, -⟩ := isNameEquals_of_nameAttribute? hcs hq hread
        exact absurd hnil (by simp)
    have hword : ∀ q ∈ tagQuotes, Text.isWord q = false := List.all_iff_forall_prop.1 (by decide)
    rw [List.nil_append, slotName?, hread, ite_self, hword quote hq]
  | cons c cs ih =>
    rw [endsInName_cons, not_or] at h
    rw [slotName?_cons_of_not hcs hq h.1]
    exact ih (fun d hd => hcs d (List.mem_cons_of_mem c hd)) h.2

/-- **…and else the name is the value that the quote begins.** -/
theorem slotName?_of_endsInName (hcs : NoQuotes cs) (hq : quote ∈ tagQuotes)
    (h : EndsInName inWord cs) (hvalue : plainValue? (quote :: rest) = some found) :
    slotName? inWord (cs ++ quote :: rest) = some found.1 := by
  induction cs generalizing inWord with
  | nil => exact absurd h endsInName_nil
  | cons c cs ih =>
    by_cases hc : inWord = false ∧ IsNameEquals (c :: cs)
    · obtain ⟨rfl, hname⟩ := hc
      have hread := (nameAttribute?_of_isNameEquals hq hname).trans hvalue
      rw [List.cons_append] at hread ⊢
      rw [slotName?, if_neg Bool.false_ne_true, hread]
    · rw [slotName?_cons_of_not hcs hq hc]
      exact ih (fun d hd => hcs d (List.mem_cons_of_mem c hd))
        ((endsInName_cons.1 h).resolve_left hc)

/-- A plain value is read up to the quote that ends it. -/
theorem plainValue?_quote (hq : quote ∈ tagQuotes) (hvalue : ∀ c ∈ value, c ∉ '$' :: tagQuotes)
    (rest : List Char) :
    plainValue? (quote :: (value ++ quote :: rest)) = some (String.ofList value, rest) := by
  have hgo : ∀ c ∈ value, (!(c == quote || c == '$')) = true := by
    intro c hc
    have hne : c ≠ quote := by
      rintro rfl
      exact hvalue c hc (List.mem_cons_of_mem _ hq)
    have hdollar : c ≠ '$' := by
      rintro rfl
      exact hvalue '$' hc List.mem_cons_self
    simp [hne, hdollar]
  have hquote : quote = '"' ∨ quote = '\'' := by simpa [tagQuotes] using hq
  rw [plainValue?, if_pos hquote, Text.breakAt, List.takeWhile_append_of_pos hgo,
    List.dropWhile_append_of_pos hgo, List.takeWhile_cons_of_neg (by simp),
    List.dropWhile_cons_of_neg (by simp), List.append_nil]
  simp

/-- No name is read in text without an equals sign. -/
theorem slotName?_of_notMem (h : '=' ∉ cs) : slotName? inWord cs = none := by
  induction cs generalizing inWord with
  | nil => rfl
  | cons c cs ih =>
    have hread : nameAttribute? (c :: cs) = none := by
      cases hread : nameAttribute? (c :: cs) with
      | none => rfl
      | some found =>
        obtain ⟨behindName, hname, hmore⟩ := Option.bind_eq_some_iff.1 hread
        obtain ⟨behindEquals, hequals, -⟩ := Option.bind_eq_some_iff.1 hmore
        have hmem : '=' ∈ Text.skipBlank behindName :=
          char?_eq_some.1 hequals ▸ List.mem_cons_self
        rw [Text.dropLead?_eq_some.1 hname] at h
        exact absurd (List.mem_append_right _ ((List.dropWhile_sublist _).subset hmem)) h
    rw [slotName?, hread, ite_self]
    exact ih fun hmem => h (List.mem_cons_of_mem c hmem)

end Segments

/-! ## Reading attributes -/

namespace Attribute

/-- **Whether the text before either quote of an attribute leaves the name of a slot alone**: it does
not end in `name` and an equals sign, and has no `name=` in it. -/
def IsPlain (a : Attribute) : Prop :=
  ∀ cs ∈ [a.head, a.value], ¬ EndsInName false cs ∧ ¬ "name=".toList <:+: cs

variable (a : Attribute)

/-- An attribute is plain if the word `name` stands nowhere in it. -/
theorem isPlain_of_not_infix (hhead : ¬ "name".toList <:+: a.head)
    (hvalue : ¬ "name".toList <:+: a.value) : a.IsPlain := by
  have hequals : "name".toList <:+: "name=".toList := by decide
  rintro cs (_ | ⟨_, _ | ⟨_, ⟨⟩⟩⟩)
  · exact ⟨fun h => hhead h.infix, fun h => hhead (hequals.trans h)⟩
  · exact ⟨fun h => hvalue h.infix, fun h => hvalue (hequals.trans h)⟩

theorem forall_mem_head {p : Char → Prop} (hgap : ∀ c ∈ tagGap, p c) (hequals : p '=')
    (hname : ∀ c ∈ a.name, p c) : ∀ c ∈ a.head, p c := by
  have hspace : ∀ c ∈ tagSpace, p c := fun c hc => hgap c (List.mem_cons_of_mem _ hc)
  simp only [head, List.forall_mem_append, List.forall_mem_cons]
  exact ⟨fun c hc => hgap c (a.gap_mem c hc), hname,
    fun c hc => hspace c (a.beforeEquals_mem c hc), hequals,
    fun c hc => hspace c (a.afterEquals_mem c hc)⟩

theorem noQuotes_head : NoQuotes a.head := by
  refine a.forall_mem_head (List.all_iff_forall_prop.1 (by decide)) (by decide) ?_
  intro c hc hquote
  exact a.name_notMem c hc (by simp [hquote])

theorem noQuotes_value : NoQuotes a.value := fun c hc hquote =>
  a.value_notMem c hc (by simp [hquote])

theorem notMem_written : '>' ∉ a.written := by
  have hhead : ∀ c ∈ a.head, c ≠ '>' := by
    refine a.forall_mem_head (List.all_iff_forall_prop.1 (by decide)) (by decide) ?_
    rintro c hc rfl
    exact a.name_notMem '>' hc (by simp)
  have hquote : '>' ≠ a.quote := fun h => absurd (h ▸ a.quote_mem) (by decide)
  have hvalue : '>' ∉ a.value := fun h => a.value_notMem '>' h List.mem_cons_self
  simp only [written, List.mem_append, List.mem_cons, List.not_mem_nil, not_or]
  exact ⟨fun h => hhead '>' h rfl, hquote, hvalue, hquote, id⟩

theorem written_append (rest : List Char) :
    a.written ++ rest = a.head ++ a.quote :: (a.value ++ a.quote :: rest) := by
  simp [written]

variable {a}

/-- **An attribute without a name before its quotes is passed over.** -/
theorem slotName?_written (hhead : ¬ EndsInName false a.head) (hvalue : ¬ EndsInName false a.value)
    (rest : List Char) : slotName? false (a.written ++ rest) = slotName? false rest := by
  rw [written_append, slotName?_append_quote a.noQuotes_head a.quote_mem hhead,
    slotName?_append_quote a.noQuotes_value a.quote_mem hvalue]

/-- **Where the text before its value ends in a name, the value names the slot.** -/
theorem slotName?_written_of_head (h : EndsInName false a.head) (rest : List Char) :
    slotName? false (a.written ++ rest) = some (String.ofList a.value) := by
  have hvalue : ∀ c ∈ a.value, c ∉ '$' :: tagQuotes := fun c hc hmem =>
    a.value_notMem c hc (List.mem_cons_of_mem _ hmem)
  rw [written_append, slotName?_of_endsInName a.noQuotes_head a.quote_mem h
    (plainValue?_quote a.quote_mem hvalue rest)]

/-- **Where its value ends in a name, the slot is named by what stands up to the next quote.** -/
theorem slotName?_written_of_value (hhead : ¬ EndsInName false a.head)
    (hvalue : EndsInName false a.value) {text : List Char}
    (htext : ∀ c ∈ text, c ∉ '$' :: tagQuotes) (rest : List Char) :
    slotName? false (a.written ++ (text ++ a.quote :: rest)) = some (String.ofList text) := by
  rw [written_append, slotName?_append_quote a.noQuotes_head a.quote_mem hhead,
    slotName?_of_endsInName a.noQuotes_value a.quote_mem hvalue
      (plainValue?_quote a.quote_mem htext rest)]

/-- An attribute called `name` is one whose text ends so. -/
theorem endsInName_of_isNamed (h : a.isNamed = true) : EndsInName false a.head := by
  have hblank : ∀ c ∈ tagSpace, Text.isBlank c = true := List.all_eq_true.1 (by decide)
  have hword : ∀ c ∈ tagGap, Text.isWord c = false := List.all_iff_forall_prop.1 (by decide)
  refine ⟨a.gap, _, rfl, endsInWord_of_forall fun c hc => hword c (a.gap_mem c hc),
    a.beforeEquals, a.afterEquals, ?_,
    fun c hc => hblank c (a.beforeEquals_mem c hc), fun c hc => hblank c (a.afterEquals_mem c hc)⟩
  rw [beq_iff_eq.1 h]

end Attribute

/-! ## Reading start tags -/

section Tags

variable {inside behind rest cs : List Char}

theorem endsWord_append_cons {c : Char} (hc : Text.isWord c = false) (cs rest : List Char) :
    Text.endsWord (cs ++ c :: rest) = Text.endsWord cs := by
  cases cs with
  | nil => exact congrArg (!·) hc
  | cons d cs => rfl

/-- **What stands between `<slot` and the next `>` is read**, unless a word goes on. -/
theorem slotTag_append (hinside : '>' ∉ inside) (hword : Text.endsWord inside = true)
    (rest : List Char) :
    slotTag ("<slot".toList ++ (inside ++ '>' :: rest)) = some (inside, rest) := by
  have hgo : ∀ c ∈ inside, (!(c == '>')) = true := by
    rintro c hc
    have hne : c ≠ '>' := fun h => hinside (h ▸ hc)
    simp [hne]
  rw [slotTag, Text.dropLead?_eq_some.2 rfl, Option.bind_eq_bind, Option.bind_some,
    endsWord_append_cons (by decide), hword, Text.breakAt, List.takeWhile_append_of_pos hgo,
    List.dropWhile_append_of_pos hgo, List.takeWhile_cons_of_neg (by simp),
    List.dropWhile_cons_of_neg (by simp), List.append_nil]
  rfl

/-- A slot tag that is closed is read. -/
theorem exists_slotTag_append (hclosed : '>' ∈ behind) (hword : Text.endsWord behind = true) :
    ∃ inside rest, behind = inside ++ '>' :: rest ∧
      ∀ more, slotTag ("<slot".toList ++ (inside ++ '>' :: more)) = some (inside, more) := by
  obtain ⟨inside, rest, rfl, hinside⟩ := List.eq_append_cons_of_mem hclosed
  rw [endsWord_append_cons (by decide)] at hword
  exact ⟨inside, rest, rfl, slotTag_append hinside hword⟩

/-- Where a word goes on, no slot tag is read. -/
theorem slotTag_eq_none_of_word (hword : Text.endsWord behind = false) :
    slotTag ("<slot".toList ++ behind) = none := by
  rw [slotTag, Text.dropLead?_eq_some.2 rfl, Option.bind_eq_bind, Option.bind_some, hword]
  rfl

theorem slotTag_eq_none (h : ¬ "<slot".toList <+: cs) : slotTag cs = none := by
  cases hlead : Text.dropLead? "<slot".toList cs with
  | none => rw [slotTag, hlead, Option.bind_eq_bind, Option.bind_none]
  | some behind => exact absurd ⟨behind, (Text.dropLead?_eq_some.1 hlead).symm⟩ h

theorem exists_of_slotTag {found : List Char × List Char} (h : slotTag cs = some found) :
    ∃ behind, cs = "<slot".toList ++ behind ∧ Text.endsWord behind = true ∧ '>' ∈ behind := by
  obtain ⟨behind, hbehind, h⟩ := Option.bind_eq_some_iff.1 h
  cases hword : Text.endsWord behind with
  | false => simp [hword] at h
  | true =>
    refine ⟨behind, Text.dropLead?_eq_some.1 hbehind, hword, ?_⟩
    by_contra hopen
    have hdrop : behind.dropWhile (fun c => !(c == '>')) = [] :=
      List.dropWhile_eq_nil_iff.2 fun c hc => by
        have hne : c ≠ '>' := fun h => hopen (h ▸ hc)
        simp [hne]
    simp [hword, Text.breakAt, hdrop] at h

end Tags

namespace StartTag

variable (t : StartTag)

theorem inside_ofList_cons (a : Attribute) (as : List Attribute) :
    (ofList (a :: as)).inside = a.written ++ (ofList as).inside := by
  simp [inside, ofList]

theorem notMem_inside : '>' ∉ t.inside := by
  have hclose : '>' ∉ t.close := fun h => absurd (t.close_mem '>' h) (by decide)
  simp only [inside, List.mem_append, List.mem_flatMap, not_or, not_exists, not_and]
  exact ⟨fun a _ => a.notMem_written, hclose⟩

theorem endsWord_inside : Text.endsWord t.inside = true := by
  have hword : ∀ c ∈ tagGap, (!Text.isWord c) = true := List.all_eq_true.1 (by decide)
  rw [inside]
  cases t.attributes with
  | nil =>
    cases hclose : t.close with
    | nil => rfl
    | cons c close => exact hword c (t.close_mem c (hclose ▸ List.mem_cons_self))
  | cons a as =>
    obtain ⟨c, gap, hgap⟩ := List.exists_cons_of_ne_nil a.gap_ne_nil
    rw [List.flatMap_cons, Attribute.written, Attribute.head, hgap]
    exact hword c (a.gap_mem c (hgap ▸ List.mem_cons_self))

theorem slotTag_written (rest : List Char) :
    slotTag (t.written [] ++ rest) = some (t.inside, rest) := by
  have hwritten : t.written [] ++ rest = "<slot".toList ++ (t.inside ++ '>' :: rest) := by
    simp [written]
  rw [hwritten, slotTag_append t.notMem_inside t.endsWord_inside]

variable {t}

/-- **Among plain attributes, the first one called `name` names the slot.** -/
theorem slotName?_inside (h : ∀ a ∈ t.attributes, a.isNamed = true ∨ a.IsPlain) :
    slotName? false t.inside = t.names.head?.map String.ofList := by
  have hclose : '=' ∉ t.close := fun h => absurd (t.close_mem '=' h) (by decide)
  rw [inside, names, List.head?_map, List.head?_filter]
  generalize t.attributes = attributes at h ⊢
  induction attributes with
  | nil => exact slotName?_of_notMem hclose
  | cons a as ih =>
    obtain ⟨ha, has⟩ := List.forall_mem_cons.1 h
    rw [List.flatMap_cons, List.append_assoc]
    cases hnamed : a.isNamed with
    | true =>
      rw [List.find?_cons_of_pos hnamed]
      exact Attribute.slotName?_written_of_head (Attribute.endsInName_of_isNamed hnamed) _
    | false =>
      have hplain := ha.resolve_left (by simp [hnamed])
      rw [List.find?_cons_of_neg (by simp [hnamed]), Attribute.slotName?_written
        (hplain a.head List.mem_cons_self).1 (hplain a.value (by simp)).1]
      exact ih has

/-- Plain attributes have no `name=` in them. -/
theorem not_infix_inside (h : ∀ a ∈ t.attributes, a.IsPlain) :
    ¬ "name=".toList <:+: t.inside := by
  have hclose : '=' ∉ t.close := fun h => absurd (t.close_mem '=' h) (by decide)
  rw [inside]
  generalize t.attributes = attributes at h ⊢
  induction attributes with
  | nil => exact fun hname => hclose (hname.subset (by decide))
  | cons a as ih =>
    obtain ⟨ha, has⟩ := List.forall_mem_cons.1 h
    have hquote : a.quote ∉ "name=".toList :=
      List.all_iff_forall_prop.1 (by decide : tagQuotes.all (· ∉ "name=".toList)) _ a.quote_mem
    rw [List.flatMap_cons, List.append_assoc, Attribute.written_append,
      List.infix_append_cons_iff hquote, List.infix_append_cons_iff hquote, not_or, not_or]
    exact ⟨(ha a.head List.mem_cons_self).2, (ha a.value (by simp)).2, ih has⟩

/-- **A start tag of plain attributes is the slot that its first `name` says**, or the default
slot. -/
theorem slotOfAttributes?_inside (h : ∀ a ∈ t.attributes, a.isNamed = true ∨ a.IsPlain) :
    slotOfAttributes? t.inside
      = some ((t.names.head?.map String.ofList).getD "") := by
  rw [slotOfAttributes?, slotName?_inside h]
  cases hnames : t.names with
  | cons name names => rfl
  | nil =>
    have hplain : ∀ a ∈ t.attributes, a.IsPlain := fun a ha =>
      (h a ha).resolve_left (List.filter_eq_nil_iff.1 (List.map_eq_nil_iff.1 hnames) a ha)
    have hcontains : Text.contains "name=".toList t.inside = false := by
      rw [← Bool.not_eq_true, Text.contains_iff]
      exact not_infix_inside hplain
    rw [List.head?_nil, Option.map_none, hcontains]
    rfl

end StartTag

/-! ## Bodies -/

section Bodies

variable {before after cs : List Char}

/-- **Whether every slot tag that is opened in a text is closed in it.** -/
def ClosesSlots (cs : List Char) : Prop :=
  ∀ rest, "<slot".toList ++ rest <:+ cs → Text.endsWord rest = true → '>' ∈ rest

/-- Whether no `<slot` can begin in a text and go on behind it. -/
def EndsOutside (cs : List Char) : Prop :=
  ClosesSlots cs ∧ ∀ place, place <:+ cs → place ≠ [] → ¬ place <+: "<slot".toList

theorem closesSlots_nil : ClosesSlots [] := fun rest hrest =>
  absurd (List.suffix_nil.1 hrest) (by simp)

/-- A `<slot` does not go on in a tag. -/
theorem slot_isPrefix_of_append {place : List Char} (hne : place ≠ [])
    (h : "<slot".toList <+: place ++ '<' :: cs) : "<slot".toList <+: place := by
  have hslot : "<slot".toList = '<' :: "slot".toList := rfl
  obtain ⟨d, place, rfl⟩ := List.exists_cons_of_ne_nil hne
  rw [hslot, List.cons_append, List.cons_prefix_cons] at h
  rw [hslot]
  exact List.cons_prefix_cons.2 ⟨h.1, List.prefix_of_append_cons (by decide) h.2⟩

/-- A place of closed text reads the same with more text behind. -/
theorem slotTag_append_right {place : List Char} (hclosed : ClosesSlots place)
    (hjoint : "<slot".toList <+: place ++ cs → "<slot".toList <+: place) :
    slotTag (place ++ cs) = (slotTag place).map fun found => (found.1, found.2 ++ cs) := by
  by_cases hslot : "<slot".toList <+: place
  · obtain ⟨behind, rfl⟩ := hslot
    cases hword : Text.endsWord behind with
    | true =>
      obtain ⟨inside, rest, rfl, hread⟩ :=
        exists_slotTag_append (hclosed behind List.suffix_rfl hword) hword
      rw [hread, Option.map_some, ← hread (rest ++ cs)]
      simp
    | false =>
      have hmore : Text.endsWord (behind ++ cs) = false := by
        cases behind with
        | nil => exact absurd hword (by decide)
        | cons c behind => exact hword
      rw [slotTag_eq_none_of_word hword, List.append_assoc, slotTag_eq_none_of_word hmore]
      rfl
  · rw [slotTag_eq_none hslot, slotTag_eq_none (mt hjoint hslot)]
    rfl

/-- **Text whose slot tags are closed is scanned by itself**, if no `<slot` goes on behind it. -/
theorem scan_slotTag_append (hclosed : ClosesSlots before)
    (hjoint : ∀ place, place <:+ before → place ≠ [] → "<slot".toList <+: place ++ cs →
      "<slot".toList <+: place) :
    Text.scan slotTag (before ++ cs) = Text.scan slotTag before ++ Text.scan slotTag cs := by
  refine Text.scan_append_of_read (fun place inside rest hread => ?_) fun place hplace hne =>
    slotTag_append_right (fun rest hrest => hclosed rest (hrest.trans hplace))
      (hjoint place hplace hne)
  obtain ⟨behind, rfl, hword, hclosed⟩ := exists_of_slotTag hread
  obtain ⟨inside', rest', rfl, hread'⟩ := exists_slotTag_append hclosed hword
  obtain ⟨rfl, rfl⟩ := Prod.mk.inj (Option.some.inj (hread.symm.trans (hread' rest')))
  exact ⟨"<slot".toList ++ (inside ++ ['>']), List.cons_ne_nil _ _, by simp⟩

end Bodies

/-! ## What may be changed in a body -/

/-- **Whether attributes of a kind make no difference beside the `name` attributes of a slot**: the
slots of no body change if such attributes are added, removed or put elsewhere. -/
def Immaterial (kind : Attribute → Prop) : Prop :=
  ∀ ⦃before after : List Char⦄ ⦃t u : StartTag⦄, ClosesSlots before →
    (∀ a ∈ t.attributes ++ u.attributes, a.isNamed = true ∨ kind a) → t.names = u.names →
      templateSlots (String.ofList (before ++ (t.written [] ++ after)))
        = templateSlots (String.ofList (before ++ (u.written [] ++ after)))

/-- Whether a text is the rest of the name of a tag. -/
def IsTagRest (cs : List Char) : Prop :=
  cs ≠ [] ∧ ∀ c ∈ cs, c ∉ '<' :: '=' :: '>' :: (tagQuotes ++ tagGap)

/-- **Whether elements of a name that begins with `slot` can be inserted into any body** without a
change of its slots, unless they hold slots. -/
def Insertable (rest : List Char) : Prop :=
  ∀ ⦃before after content : List Char⦄ ⦃t : StartTag⦄, EndsOutside before →
    ¬ "<slot".toList <:+: t.inside ++ '>' :: content →
      templateSlots (String.ofList (before ++ (slotElement rest t content ++ after)))
        = templateSlots (String.ofList (before ++ after))

theorem templateSlots_ofList (cs : List Char) : templateSlots (String.ofList cs)
    = ((Text.scan slotTag cs).filterMap slotOfAttributes?).eraseDups := by
  rw [templateSlots, String.toList_ofList]

section Attributes

variable {before after : List Char} {t u : StartTag} {kind : Attribute → Prop} {a : Attribute}

theorem templateSlots_tag (h : ClosesSlots before) (after : List Char) (t : StartTag) :
    templateSlots (String.ofList (before ++ (t.written [] ++ after)))
      = ((Text.scan slotTag before).filterMap slotOfAttributes?
          ++ ((slotOfAttributes? t.inside).toList
            ++ (Text.scan slotTag after).filterMap slotOfAttributes?)).eraseDups := by
  have hjoint : ∀ place, place <:+ before → place ≠ [] →
      "<slot".toList <+: place ++ (t.written [] ++ after) → "<slot".toList <+: place := by
    intro place _ hne hslot
    exact slot_isPrefix_of_append hne hslot
  have hscan : Text.scan slotTag (t.written [] ++ after) = t.inside :: Text.scan slotTag after :=
    Text.scan_of_read (List.cons_ne_nil _ _) (t.slotTag_written after)
  rw [templateSlots_ofList, scan_slotTag_append h hjoint, hscan, List.filterMap_append,
    List.filterMap_cons]
  cases slotOfAttributes? t.inside <;> rfl

/-- **Plain attributes make no difference.** -/
theorem immaterial_of_isPlain (h : ∀ a, kind a → a.isNamed = true ∨ a.IsPlain) :
    Immaterial kind := by
  intro before after t u hbefore hkind hnames
  have hplain : ∀ a ∈ t.attributes ++ u.attributes, a.isNamed = true ∨ a.IsPlain :=
    fun a ha => (hkind a ha).elim Or.inl (h a)
  rw [List.forall_mem_append] at hplain
  rw [templateSlots_tag hbefore, templateSlots_tag hbefore,
    StartTag.slotOfAttributes?_inside hplain.1, StartTag.slotOfAttributes?_inside hplain.2, hnames]

/-- What makes no difference in any body makes none for one slot. -/
theorem Immaterial.slotOfAttributes?_eq (h : Immaterial kind)
    (hkind : ∀ a ∈ t.attributes ++ u.attributes, a.isNamed = true ∨ kind a)
    (hnames : t.names = u.names) : slotOfAttributes? t.inside = slotOfAttributes? u.inside := by
  have hslots := @h [] [] t u closesSlots_nil hkind hnames
  rw [templateSlots_tag closesSlots_nil, templateSlots_tag closesSlots_nil] at hslots
  cases ht : slotOfAttributes? t.inside <;> cases hu : slotOfAttributes? u.inside <;>
    simp_all [Text.scan, Text.scanFrom, List.eraseDups_cons]

theorem slotOfAttributes?_of_slotName? {cs : List Char} {name : String}
    (h : slotName? false cs = some name) : slotOfAttributes? cs = some name := by
  rw [slotOfAttributes?, h]

/-- An attribute called `name` whose value is another's, with a letter before it. -/
def Attribute.rival (a : Attribute) : Attribute :=
  .compact "name".toList a.quote ('x' :: a.value) (by decide)
    (List.all_iff_forall_prop.1 (by decide)) a.quote_mem
    (List.forall_mem_cons.2 ⟨by decide, a.value_notMem⟩)

/-- What makes no difference makes none before a rival. -/
theorem Immaterial.slotOfAttributes?_rival (h : Immaterial kind) (ha : kind a)
    (hnamed : a.isNamed = false) :
    slotOfAttributes? (a.written ++ (StartTag.ofList [a.rival]).inside)
      = some (String.ofList ('x' :: a.value)) := by
  have hrival : a.rival.isNamed = true := rfl
  rw [← StartTag.inside_ofList_cons, h.slotOfAttributes?_eq (u := .ofList [a.rival])
    (by simp [StartTag.ofList, ha, hrival]) (by simp [StartTag.names, StartTag.ofList, hnamed])]
  refine slotOfAttributes?_of_slotName? ?_
  rw [StartTag.inside_ofList_cons]
  exact Attribute.slotName?_written_of_head (Attribute.endsInName_of_isNamed hrival) _

/-- **An attribute that makes no difference has no name before its value…** -/
theorem Immaterial.not_endsInName_head (h : Immaterial kind) (ha : kind a)
    (hnamed : a.isNamed = false) : ¬ EndsInName false a.head := fun hhead => by
  -- read in front of its rival, it would name the slot with a shorter value
  have hread := Attribute.slotName?_written_of_head hhead (StartTag.ofList [a.rival]).inside
  have heq := (slotOfAttributes?_of_slotName? hread).symm.trans
    (h.slotOfAttributes?_rival ha hnamed)
  rw [Option.some_inj, String.ofList_inj] at heq
  exact absurd (congrArg List.length heq) (by simp)

/-- **…and none at the end of it…** -/
theorem Immaterial.not_endsInName_value (h : Immaterial kind) (ha : kind a)
    (hnamed : a.isNamed = false) : ¬ EndsInName false a.value := fun hvalue => by
  -- the quote behind it would begin a value, which goes on to the first quote of the rival
  have htext : ∀ c ∈ " name=".toList, c ∉ '$' :: tagQuotes :=
    List.all_iff_forall_prop.1 (by decide)
  have hread := Attribute.slotName?_written_of_value (h.not_endsInName_head ha hnamed) hvalue htext
    ('x' :: a.value ++ [a.quote])
  have hinside : (StartTag.ofList [a.rival]).inside
      = " name=".toList ++ a.quote :: ('x' :: a.value ++ [a.quote]) := by
    rw [StartTag.inside_ofList_cons]
    exact List.append_nil _
  have heq := h.slotOfAttributes?_rival ha hnamed
  rw [hinside, slotOfAttributes?_of_slotName? hread, Option.some_inj, String.ofList_inj] at heq
  exact absurd (List.head_eq_of_cons_eq heq) (by decide)

/-- **…and no `name=` in it.** -/
theorem Immaterial.not_infix_written (h : Immaterial kind) (ha : kind a)
    (hnamed : a.isNamed = false) : ¬ "name=".toList <:+: a.written := fun hname => by
  have hnone : (StartTag.ofList [a]).names = (StartTag.ofList []).names := by
    simp [StartTag.names, StartTag.ofList, hnamed]
  have heq := h.slotOfAttributes?_eq (by simp [StartTag.ofList, ha]) hnone
  have hread : slotName? false (StartTag.ofList [a]).inside = none := by
    rw [StartTag.inside_ofList_cons, Attribute.slotName?_written
      (h.not_endsInName_head ha hnamed) (h.not_endsInName_value ha hnamed)]
    rfl
  have hcontains : Text.contains "name=".toList (StartTag.ofList [a]).inside = true := by
    rw [Text.contains_iff, StartTag.inside_ofList_cons]
    exact hname.trans (List.prefix_append _ _).isInfix
  rw [slotOfAttributes?, hread, if_pos hcontains] at heq
  exact absurd heq (by decide)

/-- **Attributes make no difference if and only if each is plain.** -/
theorem immaterial_iff : Immaterial kind ↔ ∀ a, kind a → a.isNamed = true ∨ a.IsPlain := by
  refine ⟨fun h a ha => ?_, immaterial_of_isPlain⟩
  rw [or_iff_not_imp_left, Bool.not_eq_true]
  intro hnamed
  have hname := h.not_infix_written ha hnamed
  rintro cs (_ | ⟨_, _ | ⟨_, ⟨⟩⟩⟩)
  · refine ⟨h.not_endsInName_head ha hnamed, fun hhead => hname (hhead.trans ?_)⟩
    exact (List.prefix_append a.head _).isInfix
  · refine ⟨h.not_endsInName_value ha hnamed, fun hvalue => hname (hvalue.trans ?_)⟩
    exact ⟨a.head ++ [a.quote], [a.quote], by simp [Attribute.written]⟩

end Attributes

/-! ## Elements of other names -/

section Elements

variable {rest content after : List Char} {t : StartTag}

/-- No slot begins behind the start of an element that has none in it. -/
theorem not_infix_tail_slotElement (hrest : IsTagRest rest)
    (hcontent : ¬ "<slot".toList <:+: t.inside ++ '>' :: content) :
    ¬ "<slot".toList <:+: (slotElement rest t content).tail := by
  have hnot : '<' ∉ rest := fun h => hrest.2 '<' h List.mem_cons_self
  have htail : (slotElement rest t content).tail
      = ("slot".toList ++ rest) ++ ((t.inside ++ '>' :: content ++ ['<'])
        ++ '/' :: ("slot".toList ++ (rest ++ ['>']))) := by
    simp [slotElement, StartTag.written]
  have hlead : '<' ∉ "slot".toList ++ rest := by simp [hnot]
  have hclose : '<' ∉ "slot".toList ++ (rest ++ ['>']) := by simp [hnot]
  rw [htail]
  intro h
  have hslot : '<' :: "slot".toList <:+: _ := h
  have hopen := List.infix_of_append hlead hslot
  change "<slot".toList <:+: _ at hopen
  rcases (List.infix_append_cons_iff (by decide)).1 hopen with h | h
  · rcases List.infix_concat_iff.1 h with h | h
    · obtain h | ⟨lead, h, -⟩ := List.suffix_concat_iff.1 h
      · exact absurd h (by decide)
      · have hlast : "<slot".toList.getLast? = some 't' := rfl
        rw [h, List.getLast?_concat] at hlast
        exact absurd hlast (by decide)
    · exact hcontent h
  · exact hclose (h.subset (by decide))

/-- **Where the name of an element goes on as one word, nothing in it is read.** -/
theorem slotTag_place_eq_none (hrest : IsTagRest rest) (hword : Text.endsWord rest = false)
    (hcontent : ¬ "<slot".toList <:+: t.inside ++ '>' :: content) {place : List Char}
    (hplace : place <:+ slotElement rest t content) (hne : place ≠ []) (after : List Char) :
    slotTag (place ++ after) = none := by
  obtain ⟨text, htext⟩ : ∃ text, slotElement rest t content = text ++ ['>'] :=
    ⟨t.written rest ++ (content ++ ("</slot".toList ++ rest)), by simp [slotElement]⟩
  have hopen : slotElement rest t content = '<' :: (slotElement rest t content).tail := rfl
  rw [hopen, List.suffix_cons_iff, ← hopen] at hplace
  -- at the start of the element its name goes on; further in, no slot begins
  rcases hplace with rfl | hplace
  · have hmore : ∀ more, Text.endsWord (rest ++ more) = false := fun more => by
      obtain ⟨c, cs, rfl⟩ := List.exists_cons_of_ne_nil hrest.1
      exact hword
    rw [slotElement, StartTag.written, List.append_assoc, List.append_assoc, List.append_assoc,
      slotTag_eq_none_of_word (hmore _)]
  · refine slotTag_eq_none fun hslot => not_infix_tail_slotElement hrest hcontent ?_
    have hsuffix := hplace.trans (List.tail_suffix _)
    obtain hnil | ⟨before, rfl, -⟩ := List.suffix_concat_iff.1 (htext ▸ hsuffix)
    · exact absurd hnil hne
    · rw [List.append_assoc] at hslot
      have hbefore := List.prefix_of_append_cons (by decide) hslot
      exact (hbefore.trans (List.prefix_append before _)).isInfix.trans hplace.isInfix

theorem insertable_of_word (hrest : IsTagRest rest) (hword : Text.endsWord rest = false) :
    Insertable rest := by
  intro before after content t hbefore hcontent
  have hjoint : ∀ cs place, place <:+ before → place ≠ [] → "<slot".toList <+: place ++ cs →
      "<slot".toList <+: place := fun cs place hplace hne hslot =>
    (List.prefix_or_prefix_of_prefix hslot (List.prefix_append place cs)).resolve_right
      (hbefore.2 place hplace hne)
  rw [templateSlots_ofList, templateSlots_ofList, scan_slotTag_append hbefore.1 (hjoint _),
    scan_slotTag_append hbefore.1 (hjoint _), Text.scan_append_of_forall fun place hplace hne =>
      slotTag_place_eq_none hrest hword hcontent hplace hne after]

/-- **Where its name goes on otherwise, an element is taken for a slot.** -/
theorem not_insertable_of_endsWord (hrest : IsTagRest rest) (hword : Text.endsWord rest = true) :
    ¬ Insertable rest := by
  intro h
  have hbefore : EndsOutside [] := ⟨closesSlots_nil, fun place hplace hne =>
    absurd (List.suffix_nil.1 hplace) hne⟩
  have hend : '>' ∉ rest := fun hmem => hrest.2 '>' hmem (by simp)
  have hequals : '=' ∉ rest := fun hmem => hrest.2 '=' hmem (by simp)
  have hcontains : Text.contains "name=".toList rest = false := by
    rw [← Bool.not_eq_true, Text.contains_iff]
    exact fun hname => hequals (hname.subset (by decide))
  have hdefault : slotOfAttributes? rest = some "" := by
    rw [slotOfAttributes?, slotName?_of_notMem hequals, hcontains]
    rfl
  have hnone : templateSlots (String.ofList ([] ++ [])) = [] := rfl
  have hslots := @h [] [] [] (.ofList []) hbefore (by decide)
  have helement : slotElement rest (.ofList []) []
      = ("<slot".toList ++ (rest ++ ['>'])) ++ ("</slot".toList ++ (rest ++ ['>'])) := by
    simp [slotElement, StartTag.written, StartTag.inside, StartTag.ofList]
  have hread : slotTag (("<slot".toList ++ (rest ++ ['>'])) ++ ("</slot".toList ++ (rest ++ ['>'])))
      = some (rest, "</slot".toList ++ (rest ++ ['>'])) := by
    simpa using slotTag_append hend hword ("</slot".toList ++ (rest ++ ['>']))
  rw [hnone, templateSlots_ofList, List.nil_append, List.append_nil, helement,
    Text.scan_of_read (by simp) hread, List.filterMap_cons_some hdefault,
    List.eraseDups_cons] at hslots
  exact absurd hslots (List.cons_ne_nil _ _)

end Elements

/-- **Attributes beside `name` make no difference exactly if they are plain, and elements whose name
goes on behind `slot` exactly if it goes on as one word.** -/
theorem templateSlots_eq_iff (kind : Attribute → Prop) {rest : List Char} (hrest : IsTagRest rest) :
    (Immaterial kind ↔ ∀ a, kind a → a.isNamed = true ∨ a.IsPlain) ∧
      (Insertable rest ↔ Text.endsWord rest = false) := by
  refine ⟨immaterial_iff, fun h => ?_, insertable_of_word hrest⟩
  rw [← Bool.not_eq_true]
  exact fun hword => not_insertable_of_endsWord hrest hword h

/-- The attribute `class="wide"`. -/
def wideClass : Attribute :=
  .compact "class".toList '"' "wide".toList (by decide) (List.all_iff_forall_prop.1 (by decide))
    (by decide) (List.all_iff_forall_prop.1 (by decide))

theorem templateSlots_eq_slotted :
    IsTagRest "ted".toList ∧ Insertable "ted".toList ∧ Immaterial (· = wideClass) := by
  have hrest : IsTagRest "ted".toList := ⟨by decide, List.all_iff_forall_prop.1 (by decide)⟩
  have hplain : wideClass.IsPlain := wideClass.isPlain_of_not_infix (by decide) (by decide)
  obtain ⟨hattributes, hname⟩ := templateSlots_eq_iff (· = wideClass) hrest
  refine ⟨hrest, hname.2 (by decide), hattributes.2 ?_⟩
  rintro a rfl
  exact Or.inr hplain

/-- **A longer attribute name that ends in `name` names the slot, or hides it, and so does a value;
another element is taken for a slot.** -/
theorem templateSlots_misled :
    templateSlots "<slot></slot>" = [""] ∧
    templateSlots "<slot data-name=\"x\"></slot>" = ["x"] ∧
    templateSlots "<slot filename=\"x\"></slot>" = [] ∧
    templateSlots "<slot title=\"name=\" name=\"x\"></slot>" = [" name="] ∧
    templateSlots "<slot-list></slot-list>" = [""] := by
  decide +kernel

end ElementBindings
