import ElementBindings.Proofs.Element.DocTags

/-!
# Proofs/Element/DocPrinting — documentation written and read back

Documentation is written as a doc block with a line for each thing it says (`ClassDoc.block`).  The
lines are read back one by one (`docLines_starLines`), each as what it says, so a block is read as
the documentation that it was written from (`ClassDoc.ofRegion_block`).
-/

namespace ElementBindings

/-! ## Writing -/

namespace ClassDoc

/-- The line of an event. -/
def eventLine (e : Event) : String :=
  match e.detail with
  | some detail => "@fires \x7bCustomEvent<" ++ detail ++ ">\x7d " ++ e.name
  | none => "@fires " ++ e.name

/-- The line of a slot; the default slot has no name. -/
def slotLine (name : String) : String := if name = "" then "@slot" else "@slot " ++ name

/-- The paragraph of a description. -/
def paragraph : Option String → List String
  | some text => [text, ""]
  | none => []

/-- What is documented, line by line. -/
def lines (d : ClassDoc) : List String :=
  paragraph d.description ++ (d.events.map eventLine ++ d.slots.map slotLine)

/-- **Documentation as a doc block**, with every line behind a star. -/
def block (d : ClassDoc) : String :=
  "/**\n" ++ String.join (d.lines.map fun line => " * " ++ line ++ "\n") ++ " */"

end ClassDoc

/-- **Text that fits a line of documentation**: it is trimmed and not empty, and neither the line
nor the comment ends in it. -/
structure IsLineText (text : String) : Prop where
  trimmed : Text.trim text.toList = text.toList
  ne_nil : text.toList ≠ []
  one_line : '\n' ∉ text.toList
  closed : NoCommentEnd text.toList

/-- **Documentation that can be written**: no text in it runs over its line or is taken for a tag,
names are names, and none stands there twice. -/
structure ClassDoc.Printable (d : ClassDoc) : Prop where
  description : ∀ text ∈ d.description, IsLineText text ∧ '@' ∉ text.toList
  event_name : ∀ e ∈ d.events, Text.isName isEventNameChar e.name.toList = true
  event_detail : ∀ e ∈ d.events, ∀ detail ∈ e.detail,
    IsLineText detail ∧ bracesNest 1 0 detail.toList = true
  events_nodup : (d.events.map Event.name).Nodup
  slot_name : ∀ name ∈ d.slots, name = "" ∨ Text.isName isSlotNameChar name.toList = true
  slots_nodup : d.slots.Nodup

/-! ## Lines behind stars -/

/-- A line of a doc block, less its margin. -/
structure IsDocLine (line : List Char) : Prop where
  one_line : '\n' ∉ line
  trimmed : Text.trimEnd line = line
  closed : NoCommentEnd line

/-- A line with a star before it and its end behind it. -/
def starLine (line : List Char) : List Char := ' ' :: '*' :: ' ' :: (line ++ ['\n'])

variable {line name : List Char} {lines : List (List Char)}

/-- **Lines behind stars are read as they are**, and behind them the margin of the end of the
block. -/
theorem docLines_starLines (h : ∀ line ∈ lines, IsDocLine line) :
    docLines (lines.flatMap starLine ++ [' ']) = lines ++ [[]] := by
  induction lines with
  | nil => rfl
  | cons line lines ih =>
    obtain ⟨hline, hlines⟩ := List.forall_mem_cons.1 h
    have hread : dropMargin (Text.dropReturn (' ' :: '*' :: ' ' :: line)) = line := by
      have hreturn := Text.dropReturn_append_cons (c := ' ') (by decide) [' ', '*'] line
      calc dropMargin (Text.dropReturn (' ' :: '*' :: ' ' :: line))
        _ = dropMargin (' ' :: '*' :: ' ' :: Text.dropReturn line) := congrArg dropMargin hreturn
        _ = Text.trimEnd (Text.dropReturn line) := dropMargin_star _
        _ = line := (Text.trimEnd_dropReturn line).trans hline.trimmed
    have hone : '\n' ∉ ' ' :: '*' :: ' ' :: line := by simp [hline.one_line]
    have hcut : (line :: lines).flatMap starLine ++ [' ']
        = (' ' :: '*' :: ' ' :: line) ++ '\n' :: (lines.flatMap starLine ++ [' ']) := by
      simp [starLine]
    rw [hcut, docLines_append_newline, Text.splitOn_of_notMem hone, List.map_singleton, hread,
      ih hlines, List.singleton_append, List.cons_append]

/-- **No comment ends in lines behind stars.** -/
theorem noCommentEnd_starLines (h : ∀ line ∈ lines, IsDocLine line) :
    NoCommentEnd (lines.flatMap starLine ++ [' ']) := by
  induction lines with
  | nil => decide
  | cons line lines ih =>
    obtain ⟨hline, hlines⟩ := List.forall_mem_cons.1 h
    have hended : NoCommentEnd (line ++ ['\n']) :=
      hline.closed.append (by decide) (Or.inr (by decide))
    have hmargin : NoCommentEnd [' ', '*', ' '] := by decide
    have hstar : NoCommentEnd (starLine line) := hmargin.append hended (Or.inl (by decide))
    have hlast : (starLine line).getLast? = some '\n' := by
      rw [starLine, ← List.cons_append, ← List.cons_append, ← List.cons_append,
        List.getLast?_concat]
    rw [List.flatMap_cons, List.append_assoc]
    exact hstar.append (ih hlines) (Or.inl (by rw [hlast]; decide))

/-! ## Descriptions -/

/-- Empty lines before the first paragraph are passed over. -/
theorem docDescription_nil_cons (lines : List (List Char)) :
    docDescription ([] :: lines) = docDescription lines := rfl

/-- **A line before an empty one is a paragraph**, if it does not start as a tag does. -/
theorem docDescription_paragraph (htrim : Text.trim line = line) (hne : line ≠ [])
    (htag : line.head? ≠ some '@') (lines : List (List Char)) :
    docDescription (line :: [] :: lines) = some (String.ofList line) := by
  have hempty : line.isEmpty = false := List.isEmpty_eq_false_iff.2 hne
  have hnil : Text.trim [] = [] := rfl
  simp [docDescription, htrim, hnil, hempty, htag]

/-- **Lines of tags have no paragraph before them.** -/
theorem docDescription_tags (h : ∀ line ∈ lines, line.head? = some '@') :
    docDescription (lines ++ [[]]) = none := by
  cases lines with
  | nil => rfl
  | cons line lines =>
    obtain ⟨cs, rfl⟩ := List.head?_eq_some_iff.1 (h line List.mem_cons_self)
    simp [docDescription, Text.trim_cons (c := '@') (by decide)]

/-! ## Tag lines -/

/-- **A tag that ends in a name is a line**, if it is one as far as the name. -/
theorem IsDocLine.append_name {part : Char → Bool} {lead : List Char}
    (hpart : ∀ c, part c = true → Text.isBlank c = false) (hslash : part '/' = false)
    (hname : Text.isName part name = true) (hline : '\n' ∉ lead) (hclosed : NoCommentEnd lead)
    (hlast : lead.getLast? = some ' ') : IsDocLine (lead ++ name) where
  one_line := by
    have hblank := Text.isBlank_of_mem_name hpart hname
    rw [List.mem_append, not_or]
    exact ⟨hline, fun h => absurd (hblank _ h) (by decide)⟩
  trimmed := by
    have htrim := Text.trimEnd_append_name hpart hname lead []
    have hnil : Text.trimEnd [] = [] := rfl
    rwa [hnil, List.append_nil] at htrim
  closed := by
    have hname' := noCommentEnd_of_notMem (Text.notMem_of_isName (by decide) hslash hname)
    exact hclosed.append hname' (Or.inl (by rw [hlast]; decide))

/-- The type of an event has the braces of its detail. -/
theorem bracesNest_customEvent (detail : List Char) :
    bracesNest 1 0 ("CustomEvent<".toList ++ detail ++ ['>']) = bracesNest 1 0 detail := by
  have hopen : "CustomEvent<".toList.filter isBrace = [] := by decide +kernel
  have hclose : ['>'].filter isBrace = [] := by decide
  rw [← bracesNest_filter, List.filter_append, List.filter_append, hopen, hclose,
    List.nil_append, List.append_nil, bracesNest_filter]

theorem IsLineText.isDocLine {text : String} (h : IsLineText text) : IsDocLine text.toList :=
  ⟨h.one_line, Text.trimEnd_of_trim h.trimmed, h.closed⟩

namespace ClassDoc

variable {e : Event}

theorem toList_eventLine_some {detail : String} (h : e.detail = some detail) :
    (eventLine e).toList
      = "@fires \x7bCustomEvent<".toList ++ detail.toList ++ ">\x7d ".toList ++ e.name.toList := by
  rw [eventLine, h]
  simp only [String.toList_append]

theorem toList_eventLine_none (h : e.detail = none) :
    (eventLine e).toList = "@fires ".toList ++ e.name.toList := by
  rw [eventLine, h, String.toList_append]

/-- **The line of an event is read as the event.** -/
theorem eventTag?_eventLine (hname : Text.isName isEventNameChar e.name.toList = true)
    (hdetail : ∀ detail ∈ e.detail, IsLineText detail ∧ bracesNest 1 0 detail.toList = true) :
    eventTag? (eventLine e).toList = some (e, []) := by
  have hword : "@fires" ∈ eventWords := by decide
  cases h : e.detail with
  | none =>
    have hread := @eventTag?_plain [] _ _ hword hname (by simp)
    rw [List.append_nil, String.ofList_toList, ← h] at hread
    rw [toList_eventLine_none h]
    exact hread
  | some detail =>
    obtain ⟨htext, hnest⟩ := hdetail detail h
    have htype := (bracesNest_customEvent detail.toList).trans hnest
    have hread := @eventTag?_typed _ [] _ _ hword htype hname (by simp)
    rw [List.append_nil, String.ofList_toList,
      detailOfEventType_customEvent htext.trimmed htext.ne_nil htext.one_line,
      String.ofList_toList, ← h] at hread
    rw [toList_eventLine_some h, ← hread]
    simp

theorem isDocLine_eventLine (hname : Text.isName isEventNameChar e.name.toList = true)
    (hdetail : ∀ detail ∈ e.detail, IsLineText detail) : IsDocLine (eventLine e).toList := by
  have hpart := fun c => isBlank_of_isEventNameChar (c := c)
  cases h : e.detail with
  | none =>
    rw [toList_eventLine_none h]
    exact .append_name hpart (by decide) hname (by decide) (by decide) rfl
  | some detail =>
    have htext := hdetail detail h
    have hopen : NoCommentEnd ("@fires \x7bCustomEvent<".toList ++ detail.toList) :=
      NoCommentEnd.append (by decide) htext.closed (Or.inl (by decide))
    have hclose : NoCommentEnd ">\x7d ".toList := by decide
    have hlead := hopen.append hclose (Or.inr (by decide))
    rw [toList_eventLine_some h]
    refine .append_name hpart (by decide) hname ?_ hlead ?_
    · simp [htext.one_line]
    · rw [List.getLast?_append]
      rfl

theorem isDocLine_slotLine {name : String}
    (h : name = "" ∨ Text.isName isSlotNameChar name.toList = true) :
    IsDocLine (slotLine name).toList := by
  rw [slotLine]
  split
  · exact ⟨by decide, rfl, by decide⟩
  · next hname =>
    rw [String.toList_append]
    exact .append_name (fun _ => isBlank_of_isSlotNameChar) (by decide) (h.resolve_left hname)
      (by decide) (by decide) rfl

theorem head?_eventLine (e : Event) : (eventLine e).toList.head? = some '@' := by
  cases h : e.detail with
  | none =>
    rw [toList_eventLine_none h]
    rfl
  | some detail =>
    rw [toList_eventLine_some h]
    rfl

theorem head?_slotLine (name : String) : (slotLine name).toList.head? = some '@' := by
  rw [slotLine]
  split
  · rfl
  · rw [String.toList_append]
    rfl

/-- **The line of an event is read as the event**, … -/
theorem ofLine?_eventLine (hname : Text.isName isEventNameChar e.name.toList = true)
    (hdetail : ∀ detail ∈ e.detail, IsLineText detail ∧ bracesNest 1 0 detail.toList = true) :
    DocTag.ofLine? (eventLine e).toList = some (.event e) := by
  have hne : (eventLine e).toList ≠ [] := fun h => by simpa [h] using head?_eventLine e
  rw [DocTag.ofLine?, Text.search_of_read hne (eventTag?_eventLine hname hdetail)]

/-- …and the line of a slot as the slot. -/
theorem ofLine?_slotLine {name : String}
    (h : name = "" ∨ Text.isName isSlotNameChar name.toList = true) :
    DocTag.ofLine? (slotLine name).toList = some (.slot name) := by
  rw [slotLine]
  split
  · next hname =>
    rw [hname]
    exact @DocTag.ofLine?_slot [] _ _ List.not_mem_nil rfl
  · next hname =>
    have hisName := h.resolve_left hname
    have hat : '@' ∉ name.toList := Text.notMem_of_isName (by decide) (by decide) hisName
    have hread := slotTag?_named hisName
    rw [String.ofList_toList] at hread
    rw [String.toList_append]
    exact @DocTag.ofLine?_slot (' ' :: name.toList) _ _ (by simp [hat]) hread

/-! ## Blocks -/

variable {d : ClassDoc}

theorem toList_block (d : ClassDoc) :
    d.block.toList
      = docBlock ('\n' :: ((d.lines.map String.toList).flatMap starLine ++ [' '])) := by
  have hline : ∀ line : String, (" * " ++ line ++ "\n").toList = starLine line.toList := by
    intro line
    simp [starLine]
  simp [block, docBlock, String.toList_join, List.flatMap_map, hline]

/-- **All that is written are lines.** -/
theorem Printable.isDocLine (h : d.Printable) :
    ∀ line ∈ d.lines.map String.toList, IsDocLine line := by
  rw [List.forall_mem_map]
  intro line hline
  rcases List.mem_append.1 hline with hline | hline
  · cases hdescription : d.description with
    | none => simp [hdescription, paragraph] at hline
    | some text =>
      rw [hdescription, paragraph] at hline
      rcases List.mem_pair.1 hline with rfl | rfl
      · exact (h.description _ hdescription).1.isDocLine
      · exact ⟨by decide, rfl, by decide⟩
  · rcases List.mem_append.1 hline with hline | hline
    · obtain ⟨e, he, rfl⟩ := List.mem_map.1 hline
      exact isDocLine_eventLine (h.event_name e he) fun text ht => (h.event_detail e he text ht).1
    · obtain ⟨name, hname, rfl⟩ := List.mem_map.1 hline
      exact isDocLine_slotLine (h.slot_name name hname)

/-- **The first paragraph is the description.** -/
theorem Printable.docDescription_lines (h : d.Printable) :
    docDescription (d.lines.map String.toList ++ [[]]) = d.description := by
  cases hdescription : d.description with
  | none =>
    rw [lines, hdescription, paragraph, List.nil_append]
    refine docDescription_tags ?_
    simp [head?_eventLine, head?_slotLine, or_imp, forall_and]
  | some text =>
    obtain ⟨htext, hat⟩ := h.description text hdescription
    have hhead : text.toList.head? ≠ some '@' := fun h => hat (List.mem_of_mem_head? h)
    have hread := docDescription_paragraph htext.trimmed htext.ne_nil hhead
      ((d.events.map eventLine ++ d.slots.map slotLine).map String.toList ++ [[]])
    rw [String.ofList_toList] at hread
    rw [lines, hdescription]
    exact hread

/-- **The tags are the events and the slots**, in that order. -/
theorem Printable.filterMap_ofLine?_lines (h : d.Printable) :
    (d.lines.map String.toList).filterMap DocTag.ofLine?
      = d.events.map DocTag.event ++ d.slots.map DocTag.slot := by
  have hparagraph :
      ((paragraph d.description).map String.toList).filterMap DocTag.ofLine? = [] := by
    cases hdescription : d.description with
    | none => rfl
    | some text =>
      have hat := (h.description text hdescription).2
      simp [paragraph, (noTagWord_of_notMem hat).ofLine?, DocTag.ofLine?_nil]
  have hevents : ((d.events.map eventLine).map String.toList).filterMap DocTag.ofLine?
      = d.events.map DocTag.event := by
    rw [List.map_map, List.filterMap_map, ← List.filterMap_eq_map]
    exact List.filterMap_congr fun e he =>
      ofLine?_eventLine (h.event_name e he) (h.event_detail e he)
  have hslots : ((d.slots.map slotLine).map String.toList).filterMap DocTag.ofLine?
      = d.slots.map DocTag.slot := by
    rw [List.map_map, List.filterMap_map, ← List.filterMap_eq_map]
    exact List.filterMap_congr fun name hname => ofLine?_slotLine (h.slot_name name hname)
  rw [lines, List.map_append, List.map_append, List.filterMap_append, List.filterMap_append,
    hparagraph, hevents, hslots, List.nil_append]

/-- The lines of a block are the blank one that it opens with, what is written, and the margin of
its end. -/
theorem Printable.lastDocLines_block (h : d.Printable) {before after : String}
    (hbefore : ClosedDocs before.toList) (hafter : NoDocOpening after.toList) :
    lastDocLines (before ++ d.block ++ after) = [] :: (d.lines.map String.toList ++ [[]]) := by
  have hend : NoCommentEnd ['\n'] := by decide
  have hinside : NoCommentEnd ('\n' :: ((d.lines.map String.toList).flatMap starLine ++ [' '])) :=
    hend.append (noCommentEnd_starLines h.isDocLine) (Or.inl (by decide))
  have hopen := docLines_append_newline [] ((d.lines.map String.toList).flatMap starLine ++ [' '])
  have hregion := lastDocLines_append hbefore hinside hafter
  rw [← toList_block, ← String.toList_append, ← String.toList_append, String.ofList_toList]
    at hregion
  rw [hregion, ← List.nil_append ('\n' :: _), hopen, docLines_starLines h.isDocLine]
  rfl

/-- **Documentation that is written as a doc block is read back as it was**, behind any text whose
doc blocks are closed and before any in which none begins. -/
theorem ofRegion_block (h : d.Printable) {before after : String}
    (hbefore : ClosedDocs before.toList) (hafter : NoDocOpening after.toList) :
    ClassDoc.ofRegion (before ++ d.block ++ after) = d := by
  have hlines := h.lastDocLines_block hbefore hafter
  have htags : docTags (before ++ d.block ++ after)
      = d.events.map DocTag.event ++ d.slots.map DocTag.slot := by
    rw [docTags, hlines, List.filterMap_cons_none DocTag.ofLine?_nil, List.filterMap_append,
      h.filterMap_ofLine?_lines, List.filterMap_cons_none DocTag.ofLine?_nil, List.filterMap_nil,
      List.append_nil]
  have hevents : (docTags (before ++ d.block ++ after)).filterMap DocTag.event? = d.events := by
    rw [htags, List.filterMap_append, List.filterMap_map, List.filterMap_map]
    simp [Function.comp_def, DocTag.event?]
  have hslots : (docTags (before ++ d.block ++ after)).filterMap DocTag.slot? = d.slots := by
    rw [htags, List.filterMap_append, List.filterMap_map, List.filterMap_map]
    simp [Function.comp_def, DocTag.slot?]
  have hnames : d.events.Pairwise fun a b => (b.name == a.name) = false :=
    (List.pairwise_map.1 h.events_nodup).imp fun hne => beq_eq_false_iff_ne.2 hne.symm
  have hslotNames : d.slots.Pairwise fun a b => (b == a) = false :=
    h.slots_nodup.imp fun hne => beq_eq_false_iff_ne.2 hne.symm
  rw [ofRegion, hevents, hslots, hlines, docDescription_nil_cons, h.docDescription_lines,
    firstPerName, List.eraseDupsBy_of_pairwise hnames, List.eraseDups,
    List.eraseDupsBy_of_pairwise hslotNames]

/-- A list of items that open, with a slot for an icon. -/
def itemList : ClassDoc where
  description := some "A list of items."
  events := [⟨"item-open", some "\x7b id: string \x7d"⟩, ⟨"focus", none⟩]
  slots := ["", "icon"]

theorem ofRegion_block_itemList :
    itemList.Printable ∧
      itemList.block = "/**\n * A list of items.\n * \n"
        ++ " * @fires \x7bCustomEvent<\x7b id: string \x7d>\x7d item-open\n * @fires focus\n"
        ++ " * @slot\n * @slot icon\n */" ∧
      ClosedDocs "/** @fires stale */\nconst x = 1;\n".toList ∧
      NoDocOpening "\nexport default ".toList ∧
      ClassDoc.ofRegion
          ("/** @fires stale */\nconst x = 1;\n" ++ itemList.block ++ "\nexport default ")
        = itemList := by
  have hprintable : itemList.Printable := by
    refine ⟨fun text htext => ?_, by decide, fun e he detail hdetail => ?_, by decide, by decide,
      by decide⟩
    · obtain rfl := Option.some.inj htext
      exact ⟨⟨by decide, by decide, by decide, by decide⟩, by decide⟩
    · rcases List.mem_pair.1 he with rfl | rfl
      · obtain rfl := Option.some.inj hdetail
        exact ⟨⟨by decide, by decide, by decide, by decide⟩, by decide⟩
      · exact absurd hdetail (Option.some_ne_none detail).symm
  have hbefore : ClosedDocs "/** @fires stale */\nconst x = 1;\n".toList :=
    @ClosedDocs.block [] " @fires stale ".toList "\nconst x = 1;\n".toList
      (by decide) (by decide) (.text (by decide))
  have hafter : NoDocOpening "\nexport default ".toList := by decide
  exact ⟨hprintable, by decide +kernel, hbefore, hafter, ofRegion_block hprintable hbefore hafter⟩

end ClassDoc

end ElementBindings
