import ElementBindings.Proofs.Element.DocTags

/-!
# Proofs/Element/EventTypes — which documented types are read

A line that documents an event with a type is read as that event just when the braces of the type
nest at most one deep (`typedEvent_read_iff`).  Deeper braces take the event with them, and nothing
is left of the line.
-/

namespace ElementBindings

/-! ## Lines that type an event -/

/-- **A line that documents an event and its type**, behind a margin and with more text behind
it. -/
structure EventTagLine where
  margin : List Char
  word : String
  type : List Char
  name : List Char
  text : List Char
  margin_plain : '@' ∉ margin
  word_mem : word ∈ eventWords
  balanced : ∃ levels, bracesNest levels 0 type = true
  name_isName : Text.isName isEventNameChar name = true
  text_apart : ∀ c ∈ text.head?, isEventNameChar c = false
  one_line : '\n' ∉ margin ++ type ++ text

namespace EventTagLine

/-- A line from its event word on, with some text behind the name. -/
def tag (l : EventTagLine) (text : List Char) : List Char :=
  l.word.toList ++ ' ' :: '{' :: (l.type ++ '}' :: ' ' :: (l.name ++ text))

/-- The line as it is written. -/
def written (l : EventTagLine) : List Char := l.margin ++ l.tag l.text

/-- The event that the line documents. -/
def event (l : EventTagLine) : Event :=
  ⟨String.ofList l.name, detailOfEventType (String.ofList l.type)⟩

/-- A tag starts with the sign of tags. -/
theorem exists_tag_eq (l : EventTagLine) :
    ∃ word, ∀ text, l.tag text
      = '@' :: (word ++ ' ' :: '{' :: (l.type ++ '}' :: ' ' :: (l.name ++ text))) ∧ '@' ∉ word := by
  rcases List.mem_pair.1 l.word_mem with h | h
  · exact ⟨['f', 'i', 'r', 'e', 's'], fun text => ⟨by rw [tag, h]; rfl, by decide⟩⟩
  · exact ⟨['e', 'v', 'e', 'n', 't'], fun text => ⟨by rw [tag, h]; rfl, by decide⟩⟩

theorem newline_notMem_written (l : EventTagLine) : '\n' ∉ l.written := by
  have hword : '\n' ∉ l.word.toList := by
    rcases List.mem_pair.1 l.word_mem with h | h <;> rw [h] <;> decide
  have hname : '\n' ∉ l.name := Text.notMem_of_isName (by decide) (by decide) l.name_isName
  have hline := l.one_line
  simp only [List.mem_append, not_or] at hline
  simp [written, tag, hword, hname, hline]

/-- White space at the end of the line is white space of the text behind the name. -/
theorem trimEnd_tag (l : EventTagLine) (text : List Char) :
    Text.trimEnd (l.tag text) = l.tag (Text.trimEnd text) := by
  have htrim := Text.trimEnd_append_name (fun _ => isBlank_of_isEventNameChar) l.name_isName
    (l.word.toList ++ ' ' :: '{' :: (l.type ++ ['}', ' '])) text
  simpa only [tag, List.append_assoc, List.cons_append, List.nil_append] using htrim

/-- Text of which the end is trimmed stands as far from the name as before. -/
theorem trimEnd_text_apart (l : EventTagLine) :
    ∀ c ∈ (Text.trimEnd l.text).head?, isEventNameChar c = false := by
  obtain ⟨tail, htail⟩ := Text.trimEnd_isPrefix l.text
  intro c hc
  refine l.text_apart c ?_
  rw [← htail]
  exact List.mem_head?_append_of_mem_head? hc

/-- **Behind its margin the line is its tag**, less the white space at its end. -/
theorem exists_dropMargin_eq (l : EventTagLine) {line : List Char}
    (h : line = l.written ∨ line = Text.dropReturn l.written) :
    ∃ lead, '@' ∉ lead ∧ dropMargin line = lead ++ l.tag (Text.trimEnd l.text) := by
  obtain ⟨word, htag⟩ := l.exists_tag_eq
  have hbehind : ∃ rest, BehindMargin rest line ∧
      Text.trimEnd ('@' :: rest) = l.tag (Text.trimEnd l.text) := by
    rcases h with rfl | rfl
    · refine ⟨_, ⟨l.margin, l.margin_plain, by rw [written, (htag _).1]⟩, ?_⟩
      rw [← (htag _).1, trimEnd_tag]
    · refine ⟨_, ⟨l.margin, l.margin_plain, by
        rw [written, (htag _).1, Text.dropReturn_append_cons (by decide)]⟩, ?_⟩
      rw [← List.nil_append ('@' :: _), ← Text.dropReturn_append_cons (by decide), List.nil_append,
        Text.trimEnd_dropReturn, ← (htag _).1, trimEnd_tag]
  obtain ⟨rest, hbehind, hrest⟩ := hbehind
  obtain ⟨lead, hlead, hline⟩ := hbehind.dropMargin
  refine ⟨lead, hlead, ?_⟩
  rw [hline, ← hrest]
  exact congrArg (lead ++ ·) (Text.dropEnd_append_cons (by decide) [] rest).symm

/-- **The tag is read if the braces of the type nest at most one deep.** -/
theorem ofLine?_eq_some (l : EventTagLine) {line : List Char}
    (h : line = l.written ∨ line = Text.dropReturn l.written)
    (hnest : bracesNest 1 0 l.type = true) :
    DocTag.ofLine? (dropMargin line) = some (.event l.event) := by
  obtain ⟨lead, hlead, hline⟩ := l.exists_dropMargin_eq h
  obtain ⟨word, htag⟩ := l.exists_tag_eq
  have hread := eventTag?_typed l.word_mem hnest l.name_isName l.trimEnd_text_apart
  change eventTag? (l.tag _) = some (l.event, _) at hread
  rw [(htag _).1] at hline hread
  exact BehindMargin.ofLine?_event ⟨lead, hlead, hline⟩ hread

/-- **Nothing is read if they nest deeper**, unless there is another tag in the line. -/
theorem ofLine?_eq_none (l : EventTagLine) {line : List Char}
    (h : line = l.written ∨ line = Text.dropReturn l.written)
    (hnest : bracesNest 1 0 l.type = false) (htype : '@' ∉ l.type) (htext : '@' ∉ l.text) :
    DocTag.ofLine? (dropMargin line) = none := by
  obtain ⟨lead, hlead, hline⟩ := l.exists_dropMargin_eq h
  obtain ⟨word, htag⟩ := l.exists_tag_eq
  obtain ⟨levels, hbalanced⟩ := l.balanced
  have hname : '@' ∉ l.name := Text.notMem_of_isName (by decide) (by decide) l.name_isName
  have hevent := eventTag?_eq_none l.word_mem hbalanced hnest
    (' ' :: (l.name ++ Text.trimEnd l.text))
  have hslot : slotTag? (l.tag (Text.trimEnd l.text)) = none := by
    rw [tag]
    rcases List.mem_pair.1 l.word_mem with h | h <;> rw [h] <;> rfl
  change eventTag? (l.tag _) = none at hevent
  -- only the first sign of the line could begin a tag
  have hrest : '@' ∉ word ++ ' ' :: '{' ::
      (l.type ++ '}' :: ' ' :: (l.name ++ Text.trimEnd l.text)) := by
    have htrim : '@' ∉ Text.trimEnd l.text := fun h => htext ((Text.trimEnd_isPrefix _).subset h)
    simp [(htag []).2, htype, hname, htrim]
  rw [(htag _).1] at hevent hslot
  rw [hline, (htag _).1, DocTag.ofLine?_append hlead, DocTag.ofLine?_cons hrest, hevent, hslot]
  rfl

end EventTagLine

/-! ## Blocks with one tag line -/

/-- **A line with nothing but plain lines around it**: no tag word stands in them, and no comment
ends in any of the lines. -/
structure OnlyTagLine (line above below : List Char) : Prop where
  above_lines : above = [] ∨ ∃ cs, above = cs ++ ['\n']
  below_lines : below = [] ∨ ∃ cs, below = '\n' :: cs
  above_plain : NoTagWord above
  below_plain : NoTagWord below
  closed : NoCommentEnd (above ++ line ++ below)

variable {line above below : List Char}

/-- **The tags of the block are those of the line.** -/
theorem OnlyTagLine.exists_filterMap_eq (h : OnlyTagLine line above below) (hline : '\n' ∉ line)
    (hne : line ≠ []) :
    ∃ read, (read = line ∨ read = Text.dropReturn line) ∧
      (docLines (above ++ line ++ below)).filterMap DocTag.ofLine?
        = (DocTag.ofLine? (dropMargin read)).toList := by
  have hbelow : ∃ read, (read = line ∨ read = Text.dropReturn line) ∧
      (docLines (line ++ below)).filterMap DocTag.ofLine?
        = (DocTag.ofLine? (dropMargin read)).toList := by
    rcases h.below_lines with rfl | ⟨cs, rfl⟩
    · refine ⟨line, Or.inl rfl, ?_⟩
      rw [List.append_nil, docLines, Text.lines_of_notMem hline, if_neg hne]
      cases hread : DocTag.ofLine? (dropMargin line) <;> simp [hread]
    · refine ⟨Text.dropReturn line, Or.inr rfl, ?_⟩
      have hplain : (docLines cs).filterMap DocTag.ofLine? = [] := by
        refine List.filterMap_eq_nil_iff.2 fun read hread => NoTagWord.ofLine? ?_
        exact h.below_plain.of_infix (List.infix_cons (infix_of_mem_docLines hread))
      rw [docLines_append_newline, Text.splitOn_of_notMem hline, List.filterMap_append, hplain]
      cases hread : DocTag.ofLine? (dropMargin (Text.dropReturn line)) <;> simp [hread]
  obtain ⟨read, hread, htags⟩ := hbelow
  refine ⟨read, hread, ?_⟩
  rw [List.append_assoc]
  rcases h.above_lines with rfl | ⟨cs, rfl⟩
  · exact htags
  · rw [List.append_assoc, List.singleton_append, docLines_append_newline, List.filterMap_append,
      htags, List.filterMap_eq_nil_iff.2, List.nil_append]
    intro read hread
    exact (h.above_plain.of_infix ((infix_of_mem_map_splitOn hread).trans
      List.infix_append_left)).ofLine?

theorem OnlyTagLine.exists_docTags_eq (h : OnlyTagLine line above below) (hline : '\n' ∉ line)
    (hne : line ≠ []) :
    ∃ read, (read = line ∨ read = Text.dropReturn line) ∧
      docTags (String.ofList (docBlock (above ++ line ++ below)))
        = (DocTag.ofLine? (dropMargin read)).toList := by
  have hnone : NoDocOpening [] := by decide
  have hlast := lastDocLines_append (.text hnone) h.closed hnone
  rw [List.nil_append, List.append_nil] at hlast
  rw [docTags, hlast]
  exact h.exists_filterMap_eq hline hne

/-! ## Events read and events lost -/

/-- **A typed event is read just when the braces of its type nest at most one deep.**  If they nest
deeper and the line has no other tag in it, no event is left of the block. -/
theorem typedEvent_read_iff (l : EventTagLine) (h : OnlyTagLine l.written above below) :
    (l.event ∈ (ClassDoc.ofRegion
        (String.ofList (docBlock (above ++ l.written ++ below)))).events
      ↔ bracesNest 1 0 l.type = true) ∧
    (bracesNest 1 0 l.type = false → '@' ∉ l.type → '@' ∉ l.text →
      (ClassDoc.ofRegion
        (String.ofList (docBlock (above ++ l.written ++ below)))).events = []) := by
  have hne : l.written ≠ [] := by
    obtain ⟨word, htag⟩ := l.exists_tag_eq
    rw [EventTagLine.written, (htag _).1]
    exact List.append_ne_nil_of_right_ne_nil _ (List.cons_ne_nil _ _)
  obtain ⟨read, hread, htags⟩ := h.exists_docTags_eq l.newline_notMem_written hne
  refine ⟨⟨fun hmem => ?_, fun hnest => ?_⟩, fun hnest htype htext => ?_⟩
  · -- the detail has the braces of the type
    have hdetail := bracesNest_detail_of_mem_ofRegion hmem
    rwa [← bracesNest_filter, EventTagLine.event, filter_isBrace_detail, String.toList_ofList,
      bracesNest_filter] at hdetail
  · rw [l.ofLine?_eq_some hread hnest] at htags
    rw [ClassDoc.ofRegion, htags]
    exact List.mem_singleton_self l.event
  · rw [l.ofLine?_eq_none hread hnest htype htext] at htags
    rw [ClassDoc.ofRegion, htags]
    rfl

/-- `@event {CustomEvent<{ id: string }>} item-open - when an item opens`, behind a star. -/
def itemOpen : EventTagLine where
  margin := " * ".toList
  word := "@event"
  type := "CustomEvent<\x7b id: string \x7d>".toList
  name := "item-open".toList
  text := " - when an item opens".toList
  margin_plain := by decide
  word_mem := by decide
  balanced := ⟨1, by decide⟩
  name_isName := by decide
  text_apart := by
    intro c hc
    obtain rfl : ' ' = c := Option.some.inj hc
    decide
  one_line := by decide

/-- `@fires {CustomEvent<{ user: { id: string } }>} user-change`, on the line that opens its
block. -/
def userChange : EventTagLine where
  margin := [' ']
  word := "@fires"
  type := "CustomEvent<\x7b user: \x7b id: string \x7d \x7d>".toList
  name := "user-change".toList
  text := [' ']
  margin_plain := by decide
  word_mem := by decide
  balanced := ⟨2, by decide⟩
  name_isName := by decide
  text_apart := by
    intro c hc
    obtain rfl : ' ' = c := Option.some.inj hc
    decide
  one_line := by decide

theorem typedEvent_read_iff_itemOpen :
    OnlyTagLine itemOpen.written "\n * A list.\n *\n".toList "\n ".toList ∧
      itemOpen.event ∈ (ClassDoc.ofRegion (String.ofList (docBlock
        ("\n * A list.\n *\n".toList ++ itemOpen.written ++ "\n ".toList)))).events ∧
      OnlyTagLine userChange.written [] [] ∧
      (ClassDoc.ofRegion (String.ofList (docBlock ([] ++ userChange.written ++ [])))).events
        = [] := by
  have hitem : OnlyTagLine itemOpen.written "\n * A list.\n *\n".toList "\n ".toList :=
    ⟨Or.inr ⟨"\n * A list.\n *".toList, rfl⟩, Or.inr ⟨[' '], rfl⟩, by decide, by decide,
      by decide +kernel⟩
  have huser : OnlyTagLine userChange.written [] [] :=
    ⟨Or.inl rfl, Or.inl rfl, by decide, by decide, by decide +kernel⟩
  exact ⟨hitem, (typedEvent_read_iff itemOpen hitem).1.2 (by decide), huser,
    (typedEvent_read_iff userChange huser).2 (by decide) (by decide) (by decide)⟩

/-- **A type with braces in braces loses its event**, though they are balanced. -/
theorem typedEvent_lost :
    OnlyTagLine userChange.written [] [] ∧
      String.ofList (docBlock ([] ++ userChange.written ++ []))
        = "/** @fires \x7bCustomEvent<\x7b user: \x7b id: string \x7d \x7d>\x7d user-change */" ∧
      userChange.event ∉ (ClassDoc.ofRegion (String.ofList (docBlock
        ([] ++ userChange.written ++ [])))).events := by
  refine ⟨⟨Or.inl rfl, Or.inl rfl, ?_, ?_, ?_⟩, ?_, ?_⟩ <;> decide +kernel

end ElementBindings
