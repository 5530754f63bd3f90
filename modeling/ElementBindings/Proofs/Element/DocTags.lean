import ElementBindings.Proofs.Element.DocBlocks
import ElementBindings.Proofs.Text.Scan

/-!
# Proofs/Element/DocTags — the tags of documentation

An event tag says an event word, a type in braces or none, and a name (`exists_of_eventTag?`), and
each tag so written is read (`eventTag?_typed`, `eventTag?_plain`).  The type goes up to the brace
that closes it, as long as its own braces nest at most one deep (`closeType?_append`): no event is
documented with a detail whose braces nest deeper (`bracesNest_detail_of_mem_ofRegion`).
-/

namespace ElementBindings

/-! ## Braces -/

/-- **Whether the braces of a text are balanced and nest at most so many levels deep**, when some of
them are open before it. -/
def bracesNest (levels : Nat) : Nat → List Char → Bool
  | depth, [] => depth == 0
  | depth, c :: cs =>
    if c = '{' then decide (depth < levels) && bracesNest levels (depth + 1) cs
    else if c = '}' then decide (0 < depth) && bracesNest levels (depth - 1) cs
    else bracesNest levels depth cs

/-- Whether a character is a brace. -/
def isBrace (c : Char) : Bool := c == '{' || c == '}'

variable {levels depth : Nat} {type cs rest : List Char}

/-- How braces nest does not depend on what stands between them. -/
theorem bracesNest_filter (levels depth : Nat) (cs : List Char) :
    bracesNest levels depth (cs.filter isBrace) = bracesNest levels depth cs := by
  induction cs generalizing depth with
  | nil => rfl
  | cons c cs ih =>
    by_cases hc : isBrace c = true
    · rw [List.filter_cons_of_pos hc, bracesNest, bracesNest, ih, ih, ih]
    · have hne : c ≠ '{' ∧ c ≠ '}' := by simpa [isBrace] using hc
      rw [List.filter_cons_of_neg hc, bracesNest, if_neg hne.1, if_neg hne.2, ih]

/-- How many braces are open behind a character. -/
def depthAfter (depth : Nat) (c : Char) : Nat :=
  if c = '{' then depth + 1 else if c = '}' then depth - 1 else depth

/-- Behind each character the rest is balanced too. -/
theorem bracesNest_of_cons {c : Char} (h : bracesNest levels depth (c :: cs) = true) :
    bracesNest levels (depthAfter depth c) cs = true := by
  rw [bracesNest] at h
  rw [depthAfter]
  split at h
  · next hopen =>
    rw [if_pos hopen]
    exact (Bool.and_eq_true_iff.1 h).2
  · next hopen =>
    rw [if_neg hopen]
    split at h
    · next hclose =>
      rw [if_pos hclose]
      exact (Bool.and_eq_true_iff.1 h).2
    · next hclose => rwa [if_neg hclose]

/-- No brace closes that is not open. -/
theorem not_bracesNest_close (levels : Nat) (cs : List Char) :
    ¬ bracesNest levels 0 ('}' :: cs) = true := by
  simp [bracesNest]

/-- **A balanced text ends where a brace closes that it did not open.** -/
theorem bracesNest_unique {levels' : Nat} {type' rest' : List Char}
    (h : bracesNest levels depth type = true) (h' : bracesNest levels' depth type' = true)
    (heq : type ++ '}' :: rest = type' ++ '}' :: rest') : type = type' := by
  induction type generalizing depth type' with
  | nil =>
    obtain rfl : depth = 0 := by simpa [bracesNest] using h
    cases type' with
    | nil => rfl
    | cons d type' =>
      obtain rfl := (List.cons.inj heq).1
      exact absurd h' (not_bracesNest_close _ _)
  | cons c type ih =>
    cases type' with
    | nil =>
      obtain rfl : depth = 0 := by simpa [bracesNest] using h'
      obtain rfl := (List.cons.inj heq).1
      exact absurd h (not_bracesNest_close _ _)
    | cons d type' =>
      obtain ⟨rfl, htail⟩ := List.cons.inj heq
      rw [ih (bracesNest_of_cons h) (bracesNest_of_cons h') htail]

/-! ## Where a type ends -/

/-- A character that is no brace belongs to the type. -/
theorem closeType?_cons {c : Char} (hopen : c ≠ '{') (hclose : c ≠ '}') (read : List Char)
    (inner : Bool) (cs : List Char) :
    closeType? read inner (c :: cs) = closeType? (c :: read) inner cs := by
  cases inner <;> rw [closeType?] <;> simp [hopen, hclose]

/-- **A type whose braces nest at most one deep is read up to the brace that closes it.** -/
theorem closeType?_append {inner : Bool} (h : bracesNest 1 inner.toNat type = true)
    (read rest : List Char) :
    closeType? read inner (type ++ '}' :: rest) = some (read.reverse ++ type, rest) := by
  induction type generalizing inner read with
  | nil =>
    cases inner with
    | false => simp [closeType?]
    | true => exact absurd h (by decide)
  | cons c type ih =>
    rw [bracesNest] at h
    rw [List.cons_append]
    split at h
    · next hopen =>
      subst hopen
      cases inner with
      | false =>
        have ih := @ih true (by simpa using h) ('{' :: read)
        rw [closeType?, ih, List.reverse_cons, List.append_assoc, List.singleton_append]
      | true => exact absurd h (by simp)
    · next hopen =>
      split at h
      · next hclose =>
        subst hclose
        cases inner with
        | false => exact absurd h (by simp)
        | true =>
          have ih := @ih false (by simpa using h) ('}' :: read)
          rw [closeType?, ih, List.reverse_cons, List.append_assoc, List.singleton_append]
      · next hclose =>
        rw [closeType?_cons hopen hclose, ih h, List.reverse_cons, List.append_assoc,
          List.singleton_append]

/-- **A type that is read has braces that nest at most one deep.** -/
theorem exists_of_closeType? {inner : Bool} {read : List Char}
    (h : closeType? read inner cs = some (type, rest)) :
    ∃ more, type = read.reverse ++ more ∧ cs = more ++ '}' :: rest ∧
      bracesNest 1 inner.toNat more = true := by
  induction cs generalizing inner read with
  | nil => cases inner <;> exact absurd h (by simp [closeType?])
  | cons c cs ih =>
    by_cases hopen : c = '{'
    · subst hopen
      cases inner with
      | true => exact absurd h (by simp [closeType?])
      | false =>
        rw [closeType?] at h
        obtain ⟨more, rfl, rfl, hmore⟩ := ih h
        refine ⟨'{' :: more, by simp, rfl, ?_⟩
        simpa [bracesNest] using hmore
    · by_cases hclose : c = '}'
      · subst hclose
        cases inner with
        | false =>
          rw [closeType?] at h
          obtain ⟨rfl, rfl⟩ := Prod.mk.inj (Option.some.inj h)
          exact ⟨[], (List.append_nil _).symm, rfl, rfl⟩
        | true =>
          rw [closeType?] at h
          obtain ⟨more, rfl, rfl, hmore⟩ := ih h
          refine ⟨'}' :: more, by simp, rfl, ?_⟩
          simpa [bracesNest] using hmore
      · rw [closeType?_cons hopen hclose] at h
        obtain ⟨more, rfl, rfl, hmore⟩ := ih h
        refine ⟨c :: more, by simp, rfl, ?_⟩
        rw [bracesNest, if_neg hopen, if_neg hclose]
        exact hmore

/-! ## Details -/

theorem filter_isBrace_of_blank (h : ∀ c ∈ cs, Text.isBlank c = true) : cs.filter isBrace = [] := by
  refine List.filter_eq_nil_iff.2 fun c hc hbrace => ?_
  have hblank := h c hc
  rcases Bool.or_eq_true_iff.1 hbrace with hbrace | hbrace <;>
    rw [beq_iff_eq.1 hbrace] at hblank <;> exact absurd hblank (by decide)

theorem filter_isBrace_trim (cs : List Char) :
    (Text.trim cs).filter isBrace = cs.filter isBrace := by
  obtain ⟨lead, tail, hcs, hlead, htail⟩ := Text.exists_trim_append cs
  conv_rhs => rw [hcs]
  rw [List.filter_append, List.filter_append, filter_isBrace_of_blank hlead,
    filter_isBrace_of_blank htail, List.nil_append, List.append_nil]

theorem filter_isBrace_skipBlank (cs : List Char) :
    (Text.skipBlank cs).filter isBrace = cs.filter isBrace := by
  conv_rhs => rw [← List.takeWhile_append_dropWhile (p := Text.isBlank) (l := cs)]
  rw [List.filter_append, filter_isBrace_of_blank (List.all_eq_true.1 List.all_takeWhile),
    List.nil_append]
  rfl

theorem eq_of_angled? {detail : List Char} (h : angled? cs = some detail) :
    cs = '<' :: (detail ++ ['>']) := by
  rw [angled?.eq_def] at h
  split at h
  · next cs =>
    rw [Option.ite_none_right_eq_some] at h
    obtain ⟨⟨hlast, -, -⟩, h⟩ := h
    rw [← Option.some.inj h, List.dropLast_append_getLast? _ hlast]
  · exact absurd h (Option.some_ne_none _).symm

/-- **The detail of an event has the braces of the documented type.** -/
theorem filter_isBrace_detail (type : String) :
    ((detailOfEventType type).getD "").toList.filter isBrace = type.toList.filter isBrace := by
  rw [← filter_isBrace_trim type.toList]
  generalize htrim : Text.trim type.toList = text
  rw [detailOfEventType, htrim]
  split
  · next hplain => rcases hplain with rfl | rfl <;> rfl
  split
  · next hword =>
    rw [Text.dropLead?_eq_some.1 hword]
    rfl
  · next rest _ hword =>
    rw [Text.dropLead?_eq_some.1 hword, List.filter_append]
    split
    · next detail hdetail =>
      rw [← filter_isBrace_skipBlank rest, eq_of_angled? hdetail, Option.getD_some,
        String.toList_ofList, filter_isBrace_trim, List.filter_cons_of_neg (by decide),
        List.filter_append, List.filter_cons_of_neg (by decide)]
      simp [isBrace]
    · rw [Option.getD_some, String.toList_ofList, List.filter_append]
  · rw [Option.getD_some, String.toList_ofList]

/-- **`CustomEvent` of a detail type documents that detail.** -/
theorem detailOfEventType_customEvent {detail : List Char} (htrim : Text.trim detail = detail)
    (hne : detail ≠ []) (hline : '\n' ∉ detail) :
    detailOfEventType (String.ofList ("CustomEvent<".toList ++ detail ++ ['>']))
      = some (String.ofList detail) := by
  have hangled : angled? ('<' :: (detail ++ ['>'])) = some detail := by
    rw [angled?, List.getLast?_concat, List.dropLast_concat, if_pos ⟨rfl, hne, hline⟩]
  have htext : Text.trim ("CustomEvent<".toList ++ detail ++ ['>'])
      = "CustomEvent".toList ++ '<' :: (detail ++ ['>']) :=
    Text.trim_cons_concat (by decide) (by decide) _
  have hword : Text.dropLead? "CustomEvent".toList
      ("CustomEvent".toList ++ '<' :: (detail ++ ['>'])) = some ('<' :: (detail ++ ['>'])) :=
    Text.dropLead?_eq_some.2 rfl
  have hplain : ¬ ("CustomEvent".toList ++ '<' :: (detail ++ ['>']) = [] ∨
      "CustomEvent".toList ++ '<' :: (detail ++ ['>']) = "Event".toList) := by
    have hhead : ("CustomEvent".toList ++ '<' :: (detail ++ ['>'])).head? = some 'C' := rfl
    rintro (h | h) <;> rw [h] at hhead <;> exact absurd hhead (by decide)
  rw [detailOfEventType, String.toList_ofList, htext, if_neg hplain, hword]
  dsimp only
  rw [Text.skipBlank_cons (by decide), hangled]
  dsimp only
  rw [htrim]

/-! ## Event tags -/

/-- The words that name events. -/
def eventWords : List String := ["@fires", "@event"]

/-- An event tag goes on behind either event word. -/
theorem dropEventWord_eq_some_iff {after : List Char} :
    (Text.dropLead? "@fires".toList cs <|> Text.dropLead? "@event".toList cs) = some after ↔
      ∃ word ∈ eventWords, cs = word.toList ++ after := by
  constructor
  · intro h
    rcases hfires : Text.dropLead? "@fires".toList cs with _ | more
    · rw [hfires] at h
      exact ⟨_, by decide, Text.dropLead?_eq_some.1 h⟩
    · rw [hfires] at h
      obtain rfl := Option.some.inj h
      exact ⟨_, by decide, Text.dropLead?_eq_some.1 hfires⟩
  · rintro ⟨word, hword, rfl⟩
    rcases List.mem_pair.1 hword with rfl | rfl <;> rfl

/-- **What an event tag is made of**: an event word, white space, a type in braces with white space
behind it or none, and a name. -/
theorem exists_of_eventTag? {e : Event} (h : eventTag? cs = some (e, rest)) :
    ∃ word ∈ eventWords, ∃ after behind, cs = word.toList ++ after ∧
      Text.skipBlank? after = some behind ∧ ∃ place name,
        Text.name? isEventNameChar place = some (name, rest) ∧ e.name = String.ofList name ∧
        (e.detail = none ∨ ∃ text type closing, behind = '{' :: text ∧
          closeType? [] false text = some (type, closing) ∧
          e.detail = detailOfEventType (String.ofList type)) := by
  obtain ⟨after, hword, h⟩ := Option.bind_eq_some_iff.1 h
  obtain ⟨word, hmem, hcs⟩ := dropEventWord_eq_some_iff.1 hword
  refine ⟨word, hmem, after, ?_⟩
  split at h
  · exact absurd h (Option.some_ne_none _).symm
  · obtain ⟨behind, hbehind, h⟩ := Option.bind_eq_some_iff.1 h
    refine ⟨behind, hcs, hbehind, ?_⟩
    split at h
    · next text =>
      obtain ⟨⟨type, closing⟩, htype, h⟩ := Option.bind_eq_some_iff.1 h
      obtain ⟨place, -, h⟩ := Option.bind_eq_some_iff.1 h
      obtain ⟨⟨name, rest⟩, hname, h⟩ := Option.bind_eq_some_iff.1 h
      obtain ⟨rfl, rfl⟩ := Prod.mk.inj (Option.some.inj h)
      exact ⟨place, name, hname, rfl, Or.inr ⟨text, type, closing, rfl, htype, rfl⟩⟩
    · obtain ⟨⟨name, rest⟩, hname, h⟩ := Option.bind_eq_some_iff.1 h
      obtain ⟨rfl, rfl⟩ := Prod.mk.inj (Option.some.inj h)
      exact ⟨behind, name, hname, rfl, Or.inl rfl⟩

variable {name : List Char}

/-- The first character of a name is neither blank nor a brace. -/
theorem exists_cons_of_eventName (h : Text.isName isEventNameChar name = true) :
    ∃ c cs, name = c :: cs ∧ Text.isBlank c = false ∧ c ≠ '{' := by
  obtain ⟨c, cs, rfl, -, hword, -⟩ := Text.exists_cons_of_isName h
  refine ⟨c, cs, rfl, Text.isBlank_of_isWord hword, ?_⟩
  rintro rfl
  exact absurd hword (by decide)

theorem isBlank_of_isEventNameChar {c : Char} (h : isEventNameChar c = true) :
    Text.isBlank c = false := by
  rw [isEventNameChar] at h
  simp only [Bool.or_eq_true, beq_iff_eq, or_assoc] at h
  rcases h with h | rfl | rfl | rfl
  · exact Text.isBlank_of_isWord h
  · decide
  · decide
  · decide

/-- **A name behind an event word is an event without a detail.** -/
theorem eventTag?_plain {word : String} (hword : word ∈ eventWords)
    (hname : Text.isName isEventNameChar name = true)
    (hrest : ∀ c ∈ rest.head?, isEventNameChar c = false) :
    eventTag? (word.toList ++ ' ' :: (name ++ rest)) = some (⟨String.ofList name, none⟩, rest) := by
  obtain ⟨c, cs, rfl, hc, hbrace⟩ := exists_cons_of_eventName hname
  have hread := Text.name?_append hname hrest
  rw [List.cons_append] at hread ⊢
  have hends : Text.endsWord (' ' :: c :: (cs ++ rest)) = true := rfl
  have hskip := Text.skipBlank?_space hc (cs ++ rest)
  rw [eventTag?, dropEventWord_eq_some_iff.2 ⟨word, hword, rfl⟩]
  simp only [Option.bind_eq_bind, Option.bind_some, hends, hskip]
  rw [if_neg (by decide)]
  split
  · next text htext => exact absurd (List.cons.inj htext).1 hbrace
  · rw [hread]
    rfl

/-- What is read behind an event word and an opening brace. -/
theorem eventTag?_brace {word : String} (hword : word ∈ eventWords) (cs : List Char) :
    eventTag? (word.toList ++ ' ' :: '{' :: cs)
      = (closeType? [] false cs).bind fun p => (Text.skipBlank? p.2).bind fun q =>
        (Text.name? isEventNameChar q).bind fun r =>
          some (⟨String.ofList r.1, detailOfEventType (String.ofList p.1)⟩, r.2) := by
  rcases List.mem_pair.1 hword with rfl | rfl <;> rfl

/-- **A type and a name behind an event word are an event with that type's detail**, if the braces
of the type nest at most one deep. -/
theorem eventTag?_typed {word : String} (hword : word ∈ eventWords)
    (htype : bracesNest 1 0 type = true) (hname : Text.isName isEventNameChar name = true)
    (hrest : ∀ c ∈ rest.head?, isEventNameChar c = false) :
    eventTag? (word.toList ++ ' ' :: '{' :: (type ++ '}' :: ' ' :: (name ++ rest)))
      = some (⟨String.ofList name, detailOfEventType (String.ofList type)⟩, rest) := by
  obtain ⟨c, cs, rfl, hc, -⟩ := exists_cons_of_eventName hname
  have hclose := @closeType?_append type false htype []
  rw [eventTag?_brace hword, hclose, Option.bind_some, List.cons_append, Text.skipBlank?_space hc,
    Option.bind_some, ← List.cons_append, Text.name?_append hname hrest]
  rfl

/-- …and nothing otherwise, if they are balanced at all. -/
theorem eventTag?_eq_none {word : String} (hword : word ∈ eventWords)
    (hbalanced : bracesNest levels 0 type = true) (hdeep : bracesNest 1 0 type = false)
    (rest : List Char) :
    eventTag? (word.toList ++ ' ' :: '{' :: (type ++ '}' :: rest)) = none := by
  rw [eventTag?_brace hword]
  cases hclose : closeType? [] false (type ++ '}' :: rest) with
  | none => rfl
  | some p =>
    obtain ⟨read, closing⟩ := p
    obtain ⟨more, -, heq, hmore⟩ := exists_of_closeType? hclose
    obtain rfl := bracesNest_unique hbalanced hmore heq
    exact absurd (hdeep.symm.trans hmore) (by decide)

/-- Nothing but the sign of tags begins an event tag. -/
theorem eventTag?_of_ne {c : Char} (h : c ≠ '@') (cs : List Char) : eventTag? (c :: cs) = none := by
  simp [eventTag?, Text.dropLead?, Ne.symm h]

/-! ## Slot tags -/

/-- …or a slot tag. -/
theorem slotTag?_of_ne {c : Char} (h : c ≠ '@') (cs : List Char) : slotTag? (c :: cs) = none := by
  simp [slotTag?, Text.dropLead?, Ne.symm h]

theorem eventTag?_slot (cs : List Char) : eventTag? ("@slot".toList ++ cs) = none := rfl

theorem slot_prefix_of_slotTag? {slot : String} (h : slotTag? cs = some (slot, rest)) :
    "@slot".toList <+: cs := by
  obtain ⟨after, hafter, -⟩ := Option.bind_eq_some_iff.1 h
  exact ⟨after, (Text.dropLead?_eq_some.1 hafter).symm⟩

theorem isBlank_of_isSlotNameChar {c : Char} (h : isSlotNameChar c = true) :
    Text.isBlank c = false := by
  rcases Bool.or_eq_true_iff.1 h with h | h
  · exact Text.isBlank_of_isWord h
  · obtain rfl := beq_iff_eq.1 h
    decide

/-- **A name behind the slot word is the name of the slot.** -/
theorem slotTag?_named (hname : Text.isName isSlotNameChar name = true) :
    slotTag? ("@slot".toList ++ ' ' :: name) = some (String.ofList name, []) := by
  obtain ⟨c, cs, rfl, -, hword, -⟩ := Text.exists_cons_of_isName hname
  have hspace : ¬ isSpaceOrTab c = true := by
    intro h
    rcases Bool.or_eq_true_iff.1 h with h | h <;> rw [beq_iff_eq.1 h] at hword <;>
      exact absurd hword (by decide)
  have hlead : Text.dropLead? "@slot".toList ("@slot".toList ++ ' ' :: c :: cs)
      = some (' ' :: c :: cs) := Text.dropLead?_eq_some.2 rfl
  have hends : Text.endsWord (' ' :: c :: cs) = true := rfl
  have hdrop : (' ' :: c :: cs).dropWhile isSpaceOrTab = c :: cs := by
    rw [List.dropWhile_cons_of_pos rfl, List.dropWhile_cons_of_neg hspace]
  have hread := @Text.name?_append _ _ hname [] (by simp)
  rw [List.append_nil] at hread
  rw [slotTag?, hlead]
  simp only [Option.bind_eq_bind, Option.bind_some, hends, hdrop, hread]
  rfl

/-! ## Lines -/

/-- The words that begin the tags of documentation. -/
def tagWords : List String := ["@fires", "@event", "@slot"]

/-- Text in which none of them stands. -/
def NoTagWord (cs : List Char) : Prop := ∀ word ∈ tagWords, ¬ word.toList <:+: cs

instance (cs : List Char) : Decidable (NoTagWord cs) :=
  inferInstanceAs (Decidable (∀ word ∈ tagWords, ¬ word.toList <:+: cs))

theorem NoTagWord.of_infix {xs : List Char} (h : NoTagWord cs) (hxs : xs <:+: cs) :
    NoTagWord xs := fun word hword hin => h word hword (hin.trans hxs)

theorem noTagWord_of_notMem (h : '@' ∉ cs) : NoTagWord cs := by
  have hat : ∀ word ∈ tagWords, '@' ∈ word.toList := by decide
  exact fun word hword hin => h (hin.subset (hat word hword))

/-- **Where no tag word stands, there is no tag.** -/
theorem NoTagWord.ofLine? (h : NoTagWord cs) : DocTag.ofLine? cs = none := by
  have hevent : Text.search eventTag? cs = none := by
    refine Text.search_eq_none fun place hplace => ?_
    cases hread : eventTag? place with
    | none => rfl
    | some found =>
      obtain ⟨word, hword, after, -, rfl, -⟩ := exists_of_eventTag? hread
      have hin : word.toList <:+: cs := (List.prefix_append _ after).isInfix.trans hplace.isInfix
      rcases List.mem_pair.1 hword with rfl | rfl
      · exact absurd hin (h _ (by decide))
      · exact absurd hin (h _ (by decide))
  have hslot : Text.search slotTag? cs = none := by
    refine Text.search_eq_none fun place hplace => ?_
    cases hread : slotTag? place with
    | none => rfl
    | some found =>
      have hin := (slot_prefix_of_slotTag? hread).isInfix.trans hplace.isInfix
      exact absurd hin (h _ (by decide))
  rw [DocTag.ofLine?, hevent, hslot]
  rfl

theorem DocTag.ofLine?_nil : DocTag.ofLine? [] = none := rfl

/-- What stands before the first sign of tags is passed over. -/
theorem DocTag.ofLine?_append {lead : List Char} (h : '@' ∉ lead) (cs : List Char) :
    DocTag.ofLine? (lead ++ cs) = DocTag.ofLine? cs := by
  rw [DocTag.ofLine?, DocTag.ofLine?,
    Text.search_append_of_notMem (fun _ _ => (eventTag?_of_ne · _)) h,
    Text.search_append_of_notMem (fun _ _ => (slotTag?_of_ne · _)) h]

/-- **At the only sign of tags in a line stands its tag**, an event tag or else a slot tag. -/
theorem DocTag.ofLine?_cons (h : '@' ∉ cs) :
    DocTag.ofLine? ('@' :: cs)
      = ((eventTag? ('@' :: cs)).map (DocTag.event ·.1)
        <|> (slotTag? ('@' :: cs)).map (DocTag.slot ·.1)) := by
  rw [DocTag.ofLine?, Text.search_cons_of_notMem (fun _ _ => (eventTag?_of_ne · _)) h,
    Text.search_cons_of_notMem (fun _ _ => (slotTag?_of_ne · _)) h]
  cases eventTag? ('@' :: cs) with
  | some found => rfl
  | none => cases slotTag? ('@' :: cs) <;> rfl

/-- An event tag behind a margin is the tag of the line. -/
theorem BehindMargin.ofLine?_event {line : List Char} {e : Event} (h : BehindMargin cs line)
    (hread : eventTag? ('@' :: cs) = some (e, rest)) : DocTag.ofLine? line = some (.event e) := by
  obtain ⟨lead, hlead, rfl⟩ := h
  rw [DocTag.ofLine?_append hlead, DocTag.ofLine?,
    Text.search_of_read (List.cons_ne_nil _ _) hread]

/-- A slot tag is the tag of its line, if no other begins behind it. -/
theorem DocTag.ofLine?_slot {slot : String} {more : List Char} (hrest : '@' ∉ rest)
    (hread : slotTag? ("@slot".toList ++ rest) = some (slot, more)) :
    DocTag.ofLine? ("@slot".toList ++ rest) = some (.slot slot) := by
  have hsign : '@' ∉ "slot".toList ++ rest := by simp [hrest]
  have hevent : eventTag? ('@' :: ("slot".toList ++ rest)) = none := eventTag?_slot rest
  have hslot : slotTag? ('@' :: ("slot".toList ++ rest)) = some (slot, more) := hread
  have hline := DocTag.ofLine?_cons hsign
  rw [hevent, hslot] at hline
  exact hline

/-! ## The events of documentation -/

/-- **An event of a documentation is read off an event tag.** -/
theorem exists_eventTag?_of_mem_ofRegion {region : String} {e : Event}
    (h : e ∈ (ClassDoc.ofRegion region).events) :
    ∃ place rest, eventTag? place = some (e, rest) := by
  obtain ⟨tag, htag, hevent⟩ := List.mem_filterMap.1 (List.mem_of_mem_eraseDupsBy h)
  obtain ⟨line, -, hline⟩ := List.mem_filterMap.1 htag
  cases tag with
  | slot name => exact absurd hevent (Option.some_ne_none _).symm
  | event d =>
    obtain rfl := Option.some.inj hevent
    rw [DocTag.ofLine?] at hline
    split at hline
    · next d hd =>
      obtain rfl := DocTag.event.inj (Option.some.inj hline)
      obtain ⟨place, rest, -, hread⟩ := Text.exists_read_of_search hd
      exact ⟨place, rest, hread⟩
    · obtain ⟨name, -, hslot⟩ := Option.map_eq_some_iff.1 hline
      exact absurd hslot DocTag.noConfusion

/-- **The details of documented events have braces that nest at most one deep.** -/
theorem bracesNest_detail_of_mem_ofRegion {region : String} {e : Event}
    (h : e ∈ (ClassDoc.ofRegion region).events) :
    bracesNest 1 0 (e.detail.getD "").toList = true := by
  obtain ⟨place, rest, hread⟩ := exists_eventTag?_of_mem_ofRegion h
  obtain ⟨_, -, _, _, -, -, _, _, -, -, hdetail⟩ := exists_of_eventTag? hread
  rcases hdetail with hdetail | ⟨text, type, closing, -, htype, hdetail⟩
  · rw [hdetail]
    rfl
  · obtain ⟨more, rfl, -, hmore⟩ := exists_of_closeType? htype
    rw [hdetail, ← bracesNest_filter, filter_isBrace_detail, String.toList_ofList,
      bracesNest_filter]
    exact hmore

end ElementBindings
