import ElementBindings.Proofs.Element.Discovery
import ElementBindings.Proofs.Element.DocBlocks
import ElementBindings.Proofs.Element.Sightings
import ElementBindings.Proofs.Files.Access
import ElementBindings.Proofs.Wrapper.Derivation
import ElementBindings.Wrapper.Props

/-!
# Proofs/Wrapper/DocComments — where a generated comment ends

A doc comment is one comment if no other comment ends in it (`IsOneComment`), and then a script goes
on right behind it (`IsOneComment.gap_append`).  Line by line, that is a matter of the tag and the
slots (`Wrapper.isOneComment_doc_iff`): a description is made safe, tags and slots are not.  The
name of a component and the slots of documentation have no such characters, so what can end the
comment early is the prefix of the tags and the slots of templates (`doc_isOneComment_iff`).
-/

namespace ElementBindings

/-! ## Comments -/

/-- **Whether a text is one doc comment and the end of its line**: no comment ends in it but at its
end. -/
def IsOneComment (cs : List Char) : Prop :=
  ∃ inside, cs = "/**".toList ++ (inside ++ "*/\n".toList) ∧
    NoCommentEnd ("/**".toList ++ (inside ++ ['*']))

section Comments

variable {c : Char} {cs xs ys : List Char}

/-- **No comment ends across any character but its own two.** -/
theorem noCommentEnd_append_cons_iff (hstar : c ≠ '*') (hslash : c ≠ '/') :
    NoCommentEnd (xs ++ c :: ys) ↔ NoCommentEnd xs ∧ NoCommentEnd ys := by
  have hc : c ∉ ['*', '/'] := by simp [hstar, hslash]
  rw [NoCommentEnd, List.infix_append_cons_iff hc, not_or]
  rfl

theorem noCommentEnd_nil : NoCommentEnd [] := by decide

theorem noCommentEnd_cons_iff (hstar : c ≠ '*') (hslash : c ≠ '/') :
    NoCommentEnd (c :: ys) ↔ NoCommentEnd ys := by
  rw [← List.nil_append (c :: ys), noCommentEnd_append_cons_iff hstar hslash]
  exact and_iff_right noCommentEnd_nil

/-- **A comment is passed over up to the end that it has.** -/
theorem gap_blockComment_append (h : NoCommentEnd (cs ++ ['*'])) (n : ℕ) (nl : Bool)
    (rest : List Char) :
    ∃ nl', Script.gap .blockComment n nl (cs ++ '*' :: '/' :: rest)
      = Script.gap .blank (n + cs.length + 2) nl' rest := by
  -- a star in the text does not end the comment, as no slash can stand behind it
  induction cs generalizing n nl with
  | nil => exact ⟨nl, rfl⟩
  | cons c cs ih =>
    have hopen : ∀ more, c = '*' → cs ++ '*' :: '/' :: rest = '/' :: more → False := by
      rintro more rfl heq
      cases cs with
      | nil => exact absurd (List.head_eq_of_cons_eq heq) (by decide)
      | cons d cs =>
        obtain rfl := List.head_eq_of_cons_eq heq
        exact h ⟨[], cs ++ ['*'], rfl⟩
    obtain ⟨nl', hgap⟩ := ih (h.of_infix (List.suffix_cons c _).isInfix) (n + 1)
      (nl || Script.isLineEnd c)
    refine ⟨nl', ?_⟩
    rw [List.cons_append, Script.gap.eq_6 _ _ _ _ hopen, hgap, List.length_cons]
    congr 1
    omega

/-- **Behind one comment a script goes on**: all of the comment is passed over, and nothing else. -/
theorem IsOneComment.gap_append (h : IsOneComment cs) (n : ℕ) (nl : Bool) (rest : List Char) :
    Script.gap .blank n nl (cs ++ rest) = Script.gap .blank (n + cs.length) true rest := by
  obtain ⟨inside, rfl, hend⟩ := h
  have hinside : NoCommentEnd ('*' :: inside ++ ['*']) :=
    hend.of_infix (List.suffix_append ['/', '*'] _).isInfix
  obtain ⟨nl', hgap⟩ := gap_blockComment_append hinside (n + 2) nl ('\n' :: rest)
  have htext : "/**".toList ++ (inside ++ "*/\n".toList) ++ rest
      = '/' :: '*' :: ('*' :: inside ++ '*' :: '/' :: '\n' :: rest) := by simp
  rw [htext, Script.gap, hgap, Script.gap, if_pos (by decide)]
  · congr 1
    simp
    omega
  all_goals simp

/-- **No comment ends in a text that has been made safe.** -/
theorem noCommentEnd_replace (cs : List Char) :
    NoCommentEnd (Text.replace ['*', '/'] ['*', '\\', '/'] cs) := by
  change NoCommentEnd (Text.replaceFrom ['*', '/'] ['*', '\\', '/'] 0 cs)
  generalize 0 = skip
  -- along the replacement: only a character that is kept may stand before a slash
  induction skip, cs using Text.replaceFrom.induct ['*', '/'] with
  | case1 => exact noCommentEnd_nil
  | case2 skip c cs ih => exact ih
  | case3 c cs hold ih =>
    rw [Text.replaceFrom, if_pos hold]
    exact NoCommentEnd.append (by decide) ih (Or.inl (by decide))
  | case4 c cs hold ih =>
    rw [Text.replaceFrom, if_neg hold]
    refine NoCommentEnd.append (noCommentEnd_iff_isChain.2 (List.isChain_singleton c)) ih ?_
    rw [or_iff_not_imp_left, not_not]
    intro hstar
    obtain rfl : c = '*' := Option.some.inj hstar
    cases cs with
    | nil => exact Option.some_ne_none _ |>.symm
    | cons d cs =>
      rw [Text.replaceFrom]
      split
      · exact fun h => absurd (Option.some.inj h) (by decide)
      · rintro h
        obtain rfl : d = '/' := Option.some.inj h
        exact hold rfl

theorem noCommentEnd_commentSafe (s : String) : NoCommentEnd (commentSafe s).toList := by
  rw [commentSafe, String.toList_ofList]
  exact noCommentEnd_replace s.toList

end Comments

/-! ## The lines of a doc comment -/

section Lines

variable {rest : List Char} {w : Wrapper}

theorem noCommentEnd_docLine_append (line : String) :
    NoCommentEnd ((docLine line).toList ++ rest)
      ↔ NoCommentEnd line.toList ∧ NoCommentEnd rest := by
  rw [docLine]
  split
  · next hempty =>
    obtain rfl := String.isEmpty_iff.1 hempty
    change NoCommentEnd ([' ', '*'] ++ '\n' :: rest) ↔ NoCommentEnd [] ∧ _
    rw [noCommentEnd_append_cons_iff (by decide) (by decide)]
    exact and_congr_left' (by decide)
  · have htext : (" * " ++ line ++ "\n").toList ++ rest
        = [' ', '*'] ++ ' ' :: (line.toList ++ '\n' :: rest) := by simp
    rw [htext, noCommentEnd_append_cons_iff (by decide) (by decide),
      noCommentEnd_append_cons_iff (by decide) (by decide)]
    exact and_iff_right (by decide)

/-- **No comment ends in lines in none of which one ends.** -/
theorem noCommentEnd_docLines_append (lines : List String) :
    NoCommentEnd ((String.join (lines.map docLine)).toList ++ rest)
      ↔ (∀ line ∈ lines, NoCommentEnd line.toList) ∧ NoCommentEnd rest := by
  rw [String.toList_join]
  induction lines with
  | nil => simp
  | cons line lines ih =>
    rw [List.map_cons, List.flatMap_cons, List.append_assoc, noCommentEnd_docLine_append, ih,
      List.forall_mem_cons, and_assoc]

/-- A list of slots is free of comment ends if each of them is. -/
theorem noCommentEnd_intercalate (labels : List String) :
    NoCommentEnd (", ".intercalate labels).toList
      ↔ ∀ label ∈ labels, NoCommentEnd label.toList := by
  rw [String.toList_intercalate]
  induction labels with
  | nil => simp [noCommentEnd_nil]
  | cons label labels ih =>
    cases labels with
    | nil => simp
    | cons next labels =>
      have hlabels : (label :: next :: labels).map String.toList
          = label.toList :: next.toList :: labels.map String.toList := rfl
      rw [hlabels, List.intercalate_cons_cons, List.append_assoc, List.forall_mem_cons, ← ih]
      change NoCommentEnd (_ ++ ',' :: (' ' :: _)) ↔ _
      rw [noCommentEnd_append_cons_iff (by decide) (by decide),
        noCommentEnd_cons_iff (by decide) (by decide)]
      rfl

theorem noCommentEnd_slotLabel (slot : String) :
    NoCommentEnd (slotLabel slot).toList ↔ NoCommentEnd slot.toList := by
  rw [slotLabel]
  split
  · next hempty =>
    obtain rfl := String.isEmpty_iff.1 hempty
    exact iff_of_true (by decide) noCommentEnd_nil
  · rfl

theorem noCommentEnd_tagLine (tag : String) :
    NoCommentEnd ("React wrapper for \x60<" ++ tag ++ ">\x60.").toList
      ↔ NoCommentEnd tag.toList := by
  have htext : ("React wrapper for \x60<" ++ tag ++ ">\x60.").toList
      = "React wrapper for \x60".toList ++ '<' :: (tag.toList ++ '>' :: "\x60.".toList) := by simp
  rw [htext, noCommentEnd_append_cons_iff (by decide) (by decide),
    noCommentEnd_append_cons_iff (by decide) (by decide)]
  exact ⟨fun h => h.2.1, fun h => ⟨by decide, h, by decide⟩⟩

theorem noCommentEnd_slotsLine (slots : List String) :
    NoCommentEnd ("Slots: " ++ ", ".intercalate (slots.map slotLabel)).toList
      ↔ ∀ slot ∈ slots, NoCommentEnd slot.toList := by
  have htext : ("Slots: " ++ ", ".intercalate (slots.map slotLabel)).toList
      = "Slots:".toList ++ ' ' :: (", ".intercalate (slots.map slotLabel)).toList := by simp
  rw [htext, noCommentEnd_append_cons_iff (by decide) (by decide), noCommentEnd_intercalate,
    List.forall_mem_map]
  simp only [noCommentEnd_slotLabel]
  exact and_iff_right (by decide)

/-- **No comment ends in the lines of a doc comment if none ends in the tag or in a slot.** -/
theorem Wrapper.forall_docLines_iff : (∀ line ∈ w.docLines, NoCommentEnd line.toList)
    ↔ NoCommentEnd w.tagName.toList ∧ ∀ slot ∈ w.slots, NoCommentEnd slot.toList := by
  rw [Wrapper.docLines, List.forall_mem_append, List.forall_mem_append, and_assoc,
    List.forall_mem_singleton, noCommentEnd_tagLine]
  refine (and_iff_right ?_).trans (and_congr_right' ?_)
  · cases w.description with
    | none => exact List.forall_mem_nil _
    | some text => simpa using ⟨noCommentEnd_commentSafe text, noCommentEnd_nil⟩
  · split
    · next hempty => simp [List.isEmpty_iff.1 hempty]
    · rw [List.forall_mem_singleton, noCommentEnd_slotsLine]

/-- A doc begins as a comment… -/
theorem Wrapper.prefix_doc (w : Wrapper) : "/**\n".toList <+: w.doc.toList := by
  rw [Wrapper.doc, String.append_assoc, String.toList_append]
  exact List.prefix_append _ _

/-- …and ends as one. -/
theorem Wrapper.suffix_doc (w : Wrapper) : " */\n".toList <:+ w.doc.toList := by
  rw [Wrapper.doc, String.toList_append]
  exact List.suffix_append _ _

/-- **The doc of a component is one comment just when no comment ends in its tag or in a slot.** -/
theorem Wrapper.isOneComment_doc_iff : IsOneComment w.doc.toList
    ↔ NoCommentEnd w.tagName.toList ∧ ∀ slot ∈ w.slots, NoCommentEnd slot.toList := by
  have htext : w.doc.toList = "/**".toList
      ++ ('\n' :: ((String.join (w.docLines.map docLine)).toList ++ [' ']) ++ "*/\n".toList) := by
    simp [Wrapper.doc]
  have hend : NoCommentEnd ("/**".toList
      ++ ('\n' :: ((String.join (w.docLines.map docLine)).toList ++ [' ']) ++ ['*']))
        ↔ ∀ line ∈ w.docLines, NoCommentEnd line.toList := by
    rw [List.cons_append, noCommentEnd_append_cons_iff (by decide) (by decide), List.append_assoc,
      noCommentEnd_docLines_append]
    exact ⟨fun h => h.2.1, fun h => ⟨by decide, h, by decide⟩⟩
  rw [← Wrapper.forall_docLines_iff, ← hend]
  constructor
  · rintro ⟨inside, hinside, h⟩
    rw [htext, List.append_cancel_left_eq, List.append_cancel_right_eq] at hinside
    exact hinside ▸ h
  · exact fun h => ⟨_, htext, h⟩

end Lines

/-! ## Where a comment end can come from -/

/-- A slot that documentation names has no slash in it. -/
theorem notMem_of_slotTag? {cs rest : List Char} {slot : String}
    (h : slotTag? cs = some (slot, rest)) : '/' ∉ slot.toList := by
  obtain ⟨behind, -, h⟩ := Option.bind_eq_some_iff.1 h
  cases hword : Text.endsWord behind with
  | false => simp [hword] at h
  | true =>
    cases hname : Text.name? isSlotNameChar (behind.dropWhile isSpaceOrTab) with
    | none =>
      obtain ⟨rfl, -⟩ : "" = slot ∧ behind = rest := by simpa [hword, hname] using h
      exact List.not_mem_nil
    | some found =>
      obtain ⟨rfl, -⟩ : String.ofList found.1 = slot ∧ found.2 = rest := by
        simpa [hword, hname] using h
      have hchars := Text.forall_of_name? (fun c hc => by simp [isSlotNameChar, hc]) hname
      rw [String.toList_ofList]
      exact fun hslash => absurd (hchars '/' hslash) (by decide)

theorem notMem_of_mem_docSlots {region slot : String}
    (h : slot ∈ (ClassDoc.ofRegion region).slots) : '/' ∉ slot.toList := by
  obtain ⟨tag, htag, hslot⟩ := List.mem_filterMap.1 (List.mem_eraseDups.1 h)
  obtain ⟨line, -, hline⟩ := List.mem_filterMap.1 htag
  rw [DocTag.ofLine?] at hline
  split at hline
  · obtain rfl := Option.some.inj hline
    exact absurd hslot (Option.some_ne_none _).symm
  · obtain ⟨name, hname, rfl⟩ := Option.map_eq_some_iff.1 hline
    obtain rfl := Option.some.inj hslot
    obtain ⟨place, rest, -, hread⟩ := Text.exists_read_of_search hname
    exact notMem_of_slotTag? hread

/-- **A comment ends in a slot of a class only if one ends in a slot of its templates.** -/
theorem noCommentEnd_slots_iff {kind : ExportKind} {c : Script.ClassDecl}
    {s : ClassSurface} (h : ClassSurface.of? kind c = some s) :
    (∀ slot ∈ s.slots, NoCommentEnd slot.toList)
      ↔ ∀ slot ∈ templateSlots c.body, NoCommentEnd slot.toList := by
  obtain ⟨name, -, rfl⟩ := Option.map_eq_some_iff.1 h
  rw [ClassSurface.slots_eq, List.forall_mem_append]
  constructor
  · rintro ⟨hdoc, htemplates⟩ slot hslot
    by_cases hknown : slot ∈ (ClassDoc.ofRegion c.lead).slots
    · exact hdoc slot hknown
    · refine htemplates slot (List.mem_eraseDups.2 (List.mem_filter.2 ⟨hslot, ?_⟩))
      simp [hknown]
  · intro htemplates
    refine ⟨fun slot hslot => noCommentEnd_of_notMem (notMem_of_mem_docSlots hslot), ?_⟩
    intro slot hslot
    exact htemplates slot (List.mem_filter.1 (List.mem_eraseDups.1 hslot)).1

namespace WrapRules

variable {r : WrapRules} {tag name stem : String}

/-- What names a component has no slash in it. -/
theorem notMem_of_isComponentName (h : Text.isComponentName (Text.pascalCase stem) = true) :
    '/' ∉ stem.toList := by
  have hword : ∀ c, Text.isWord c = true → (c != '/') = true := by
    intro c hc
    rw [bne_iff_ne]
    rintro rfl
    exact absurd hc (by decide)
  have hpascal : ∀ d ∈ Text.pascal (· == '-') stem.toList, (d != '/') = true := by
    intro d hd
    rw [bne_iff_ne]
    rintro rfl
    have hname : '/' ∈ (Text.pascalCase stem).toList := by
      rwa [Text.pascalCase, String.toList_ofList]
    exact absurd (Text.isComponentChar_of_mem h hname) (by decide)
  intro hslash
  simpa using (Text.forall_mem_pascal_iff hword).1 hpascal '/' hslash

/-- The stem of a tag is what stands behind the prefix, or all of the tag. -/
theorem stem?_eq_some (h : r.stem? tag = some stem) :
    tag.toList = r.lead.toList ++ stem.toList ∨ (¬ r.lead.toList <+: tag.toList ∧ tag = stem) := by
  rw [stem?] at h
  split at h
  · exact absurd h (Option.some_ne_none _).symm
  · next rest _ hlead =>
    obtain rfl := Option.some.inj h
    rw [String.toList_ofList]
    exact Or.inl (Text.dropLead?_eq_some.1 hlead)
  · next hlead =>
    split at h
    · exact absurd h (Option.some_ne_none _).symm
    · refine Or.inr ⟨?_, Option.some.inj h⟩
      rintro ⟨rest, hrest⟩
      rw [Text.dropLead?_eq_some.2 hrest.symm] at hlead
      exact absurd hlead (Option.some_ne_none _)

/-- **A comment ends in the tag of a component only if one ends in the prefix.** -/
theorem noCommentEnd_tag_iff (h : r.wrapperName tag = .ok name) : NoCommentEnd tag.toList
    ↔ (r.lead.toList <+: tag.toList → NoCommentEnd r.lead.toList) := by
  obtain ⟨stem, hstem, rfl, hname⟩ := wrapperName_eq_ok_iff.1 h
  have hslash := notMem_of_isComponentName hname
  have hstemEnd := noCommentEnd_of_notMem hslash
  rcases stem?_eq_some hstem with htag | ⟨hnot, rfl⟩
  · rw [htag]
    constructor
    · exact fun htag _ => htag.of_infix (List.prefix_append _ _).isInfix
    · refine fun hlead => (hlead (List.prefix_append _ _)).append hstemEnd (Or.inr fun hhead => ?_)
      exact hslash (List.mem_of_head? hhead)
  · exact iff_of_true hstemEnd fun hlead => absurd hlead hnot

end WrapRules

/-- Whether a wrapper wraps a class that one of some files declares. -/
def Wrapper.Wraps (w : Wrapper) (t : FileTree) (paths : List Path) (c : Script.ClassDecl) : Prop :=
  ∃ path ∈ paths, ∃ source, t.readText path = .ok source ∧ c ∈ classesOf path source ∧
    c.name = some w.className

section Builds

variable {t : FileTree} {paths : List Path} {m : Manifest} {r : WrapRules} {ws : List Wrapper}
  {w : Wrapper}

/-- **The doc comment of a component can be broken out of by the prefix of tags and by the slots of
templates, and by nothing else.**  The doc of a wrapper of a build begins and ends as a comment; it
is one comment just when no comment ends in the prefix, as far as the tag has it, nor in a slot of
the templates of the class that is wrapped; and then a script goes on right behind it. -/
theorem doc_isOneComment_iff (hm : Manifest.ofFiles t paths = .ok m) (hws : r.wrappers m = .ok ws)
    (hw : w ∈ ws) :
    "/**\n".toList <+: w.doc.toList ∧ " */\n".toList <:+ w.doc.toList ∧
    (∃ c, w.Wraps t paths c ∧ (IsOneComment w.doc.toList ↔
      (r.lead.toList <+: w.tagName.toList → NoCommentEnd r.lead.toList) ∧
        ∀ slot ∈ templateSlots c.body, NoCommentEnd slot.toList)) ∧
    (IsOneComment w.doc.toList → ∀ n nl rest, Script.gap .blank n nl (w.doc.toList ++ rest)
      = Script.gap .blank (n + w.doc.toList.length) true rest) := by
  refine ⟨w.prefix_doc, w.suffix_doc, ?_, fun h => h.gap_append⟩
  obtain ⟨e, he, hwrap⟩ :=
    WrapRules.exists_isWrapperOf_of_mem (WrapRules.wrappers_eq_ok_iff.1 hws).1 hw
  obtain ⟨path, hpath, source, es, hsource, helements, he⟩ :=
    (Manifest.ofFiles_eq_ok_iff.1 hm).exists_elementsOf he
  obtain ⟨c, hc, kind, s, hs, hshows⟩ := exists_shows_of_mem helements he
  obtain ⟨name, hname, hsurface⟩ := Option.map_eq_some_iff.1 hs
  refine ⟨c, ⟨path, hpath, source, hsource, hc, ?_⟩, ?_⟩
  · rw [hname, hwrap.className, hshows.className, ← hsurface]
  · rw [Wrapper.isOneComment_doc_iff, hwrap.slots, hshows.slots, noCommentEnd_slots_iff hs,
      hwrap.tagName, WrapRules.noCommentEnd_tag_iff hwrap.name]

/-- A source whose template has a slot with a star and a slash in its name. -/
def starSource : String :=
  "export class XTab extends HTMLElement \x7b\n  html = '<slot name=\"a*/b\"></slot>';\n\x7d\n" ++
    "customElements.define(\"x-tab\", XTab);\n"

/-- Its file. -/
def starProject : FileTree := ⟨.directory [("tab.ts", .file starSource.toUTF8)]⟩

/-- Rules that take `x-` off its tag. -/
def starRules : WrapRules := ⟨"x-", .strict, .published fun name => some ("lib/" ++ name)⟩

/-- Its element. -/
def starElement : Element :=
  ⟨"x-tab", "XTab", .named, ⟨"/tab.ts"⟩, [], [], ["a*/b"], none⟩

/-- The wrapper of its element. -/
def starWrapper : Wrapper :=
  ⟨"Tab", "x-tab", "XTab", .named, "lib/Tab", [], [], ["a*/b"], none⟩

theorem ofFiles_starProject :
    Manifest.ofFiles starProject [⟨"/tab.ts"⟩] = .ok ⟨[starElement]⟩ := by
  have hplain : starProject.Plain := FileTree.plain_of_isPlain (by decide)
  have hlocate : starProject.locate ⟨"/tab.ts"⟩ = .ok (.there ["tab.ts"]) :=
    FileTree.locate_of_names hplain.linkless (by decide) (by decide) (by decide) rfl
  have hread : starProject.readText ⟨"/tab.ts"⟩ = .ok starSource :=
    FileTree.readText_of_locate hplain.linkless hlocate rfl
  have helements : elementsOf ⟨"/tab.ts"⟩ starSource = .ok [starElement] := by
    rw [← Except.toOption_eq_some]
    decide +kernel
  have hfile := FileTree.elementsAt_eq_ok_iff.2 ⟨starSource, hread, helements⟩
  exact Manifest.ofFiles_eq_ok_iff.2 ⟨[_], by rw [List.map_singleton, hfile]; rfl,
    List.pairwise_singleton _ _, rfl⟩

theorem wrappers_starElement : starRules.wrappers ⟨[starElement]⟩ = .ok [starWrapper] := by
  decide +kernel

theorem doc_isOneComment_starWrapper :
    Manifest.ofFiles starProject [⟨"/tab.ts"⟩] = .ok ⟨[starElement]⟩ ∧
    starRules.wrappers ⟨[starElement]⟩ = .ok [starWrapper] ∧
    ∃ c, starWrapper.Wraps starProject [⟨"/tab.ts"⟩] c ∧ (IsOneComment starWrapper.doc.toList ↔
      (starRules.lead.toList <+: starWrapper.tagName.toList →
        NoCommentEnd starRules.lead.toList) ∧
      ∀ slot ∈ templateSlots c.body, NoCommentEnd slot.toList) := by
  obtain ⟨-, -, h, -⟩ :=
    doc_isOneComment_iff ofFiles_starProject wrappers_starElement (List.mem_singleton_self _)
  exact ⟨ofFiles_starProject, wrappers_starElement, h⟩

/-- **A slot of a template breaks out of the doc comment of its component.** -/
theorem doc_brokenOut :
    Manifest.ofFiles starProject [⟨"/tab.ts"⟩] = .ok ⟨[starElement]⟩ ∧
    starRules.wrappers ⟨[starElement]⟩ = .ok [starWrapper] ∧
    starWrapper.doc = "/**\n * React wrapper for \x60<x-tab>\x60.\n * Slots: a*/b\n */\n" ∧
    ¬ IsOneComment starWrapper.doc.toList := by
  refine ⟨ofFiles_starProject, wrappers_starElement, by decide +kernel, ?_⟩
  rw [Wrapper.isOneComment_doc_iff]
  decide

end Builds

end ElementBindings
