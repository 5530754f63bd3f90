import ElementBindings.Element.Doc
import ElementBindings.Proofs.Text.Cutting
import Mathlib.Data.List.Chain
import Mathlib.Data.List.Infix

/-!
# Proofs/Element/DocBlocks — the lines that documentation is read from

Behind text whose doc blocks are all closed, a doc block is found whole, and it is the last one if
none begins behind it (`getLast?_docBlocks`).  Its lines are read one by one, each without its
margin (`docLines_append_newline`).
-/

namespace ElementBindings

/-! ## Comments -/

/-- Text in which no doc block begins. -/
def NoDocOpening (cs : List Char) : Prop := ¬ ['/', '*', '*'] <:+: cs

/-- Text in which no comment ends. -/
def NoCommentEnd (cs : List Char) : Prop := ¬ ['*', '/'] <:+: cs

instance (cs : List Char) : Decidable (NoDocOpening cs) :=
  inferInstanceAs (Decidable (¬ ['/', '*', '*'] <:+: cs))

instance (cs : List Char) : Decidable (NoCommentEnd cs) :=
  inferInstanceAs (Decidable (¬ ['*', '/'] <:+: cs))

variable {cs xs ys rest inside : List Char}

/-- No comment ends where no slash stands behind a star. -/
theorem noCommentEnd_iff_isChain : NoCommentEnd cs ↔ cs.IsChain fun a b => a = '*' → b ≠ '/' := by
  rw [List.isChain_iff_forall_rel_of_append_cons_cons]
  constructor
  · rintro h _ _ before after hcs rfl rfl
    exact h ⟨before, after, by rw [hcs, List.append_assoc]; rfl⟩
  · rintro h ⟨before, after, hcs⟩
    exact h (hcs.symm.trans (List.append_assoc before _ after)) rfl rfl

/-- **No comment ends in two texts put together**, unless the one has its star and the other its
slash. -/
theorem NoCommentEnd.append (hx : NoCommentEnd xs) (hy : NoCommentEnd ys)
    (h : xs.getLast? ≠ some '*' ∨ ys.head? ≠ some '/') : NoCommentEnd (xs ++ ys) := by
  rw [noCommentEnd_iff_isChain] at hx hy ⊢
  refine List.isChain_append.2 ⟨hx, hy, ?_⟩
  rintro _ hlast _ hhead rfl rfl
  exact h.elim (· hlast) (· hhead)

theorem noCommentEnd_of_notMem (h : '/' ∉ cs) : NoCommentEnd cs := fun hend =>
  h (hend.subset (by decide))

theorem NoCommentEnd.of_infix (h : NoCommentEnd cs) (hxs : xs <:+: cs) : NoCommentEnd xs :=
  fun hend => h (hend.trans hxs)

theorem NoDocOpening.of_infix (h : NoDocOpening cs) (hxs : xs <:+: cs) : NoDocOpening xs :=
  fun hopen => h (hopen.trans hxs)

/-! ## Blocks -/

/-- A doc block with something inside. -/
def docBlock (inside : List Char) : List Char := '/' :: '*' :: '*' :: (inside ++ ['*', '/'])

/-- **Text whose doc blocks are all closed.** -/
inductive ClosedDocs : List Char → Prop where
  | text {cs : List Char} (h : NoDocOpening cs) : ClosedDocs cs
  | block {cs inside rest : List Char} (h : NoDocOpening cs) (hinside : NoCommentEnd inside)
      (hrest : ClosedDocs rest) : ClosedDocs (cs ++ docBlock inside ++ rest)

/-- A block is read up to the first place where a comment ends. -/
theorem docBlocks_some_append (h : NoCommentEnd inside) (read rest : List Char) :
    docBlocks (some read) (inside ++ '*' :: '/' :: rest)
      = (read.reverse ++ inside) :: docBlocks none rest := by
  induction inside generalizing read with
  | nil => rw [List.nil_append, docBlocks, List.append_nil]
  | cons c inside ih =>
    have hstep : docBlocks (some read) (c :: (inside ++ '*' :: '/' :: rest))
        = docBlocks (some (c :: read)) (inside ++ '*' :: '/' :: rest) := by
      rw [docBlocks]
      rintro tail rfl htail
      -- the slash of an end is not the first character behind the star
      cases inside with
      | nil => exact absurd (List.cons.inj htail).1 (by decide)
      | cons d inside =>
        obtain rfl := (List.cons.inj htail).1
        exact h ⟨[], inside, rfl⟩
    rw [List.cons_append, hstep, ih (h.of_infix (List.infix_cons List.infix_rfl)),
      List.reverse_cons, List.append_assoc, List.singleton_append]

/-- Outside of blocks, a character that begins none is passed over. -/
theorem docBlocks_none_cons {c : Char} (h : ¬ ['/', '*', '*'] <+: c :: cs) :
    docBlocks none (c :: cs) = docBlocks none cs := by
  rw [docBlocks]
  rintro rest rfl rfl
  exact h ⟨rest, rfl⟩

theorem docBlocks_of_noDocOpening (h : NoDocOpening cs) : docBlocks none cs = [] := by
  induction cs with
  | nil => rfl
  | cons c cs ih =>
    rw [docBlocks_none_cons fun hopen => h hopen.isInfix]
    exact ih (h.of_infix (List.infix_cons List.infix_rfl))

/-- **Text in which no block begins is passed over**, up to the block behind it. -/
theorem docBlocks_append_docBlock (h : NoDocOpening cs) (hinside : NoCommentEnd inside)
    (rest : List Char) :
    docBlocks none (cs ++ docBlock inside ++ rest) = inside :: docBlocks none rest := by
  induction cs with
  | nil =>
    rw [List.nil_append, docBlock, List.cons_append, List.cons_append, List.cons_append,
      List.append_assoc]
    exact docBlocks_some_append hinside [] rest
  | cons c cs ih =>
    rw [List.cons_append, List.cons_append, docBlocks_none_cons ?_]
    · exact ih (h.of_infix (List.infix_cons List.infix_rfl))
    · -- neither does a block begin before the slash of the one behind
      rintro ⟨tail, hopen⟩
      obtain ⟨rfl, hstar⟩ := List.cons.inj hopen
      match cs with
      | [] => exact absurd (List.cons.inj hstar).1 (by decide)
      | d :: [] => exact absurd (List.cons.inj (List.cons.inj hstar).2).1 (by decide)
      | d :: e :: cs =>
        obtain ⟨rfl, hsecond⟩ := List.cons.inj hstar
        obtain ⟨rfl, -⟩ := List.cons.inj hsecond
        exact h ⟨[], cs, rfl⟩

/-- **The last of the doc blocks of a text**, behind others that are closed. -/
theorem getLast?_docBlocks {before after : List Char} (hbefore : ClosedDocs before)
    (hinside : NoCommentEnd inside) (hafter : NoDocOpening after) :
    (docBlocks none (before ++ docBlock inside ++ after)).getLast? = some inside := by
  induction hbefore with
  | text h =>
    rw [docBlocks_append_docBlock h hinside, docBlocks_of_noDocOpening hafter]
    rfl
  | @block cs other rest h hother hrest ih =>
    rw [List.append_assoc, List.append_assoc, ← List.append_assoc rest,
      docBlocks_append_docBlock h hother, List.getLast?_cons, ih]
    rfl

/-- **The documentation of a class is read from the lines of the last doc block before it.** -/
theorem lastDocLines_append {before after : List Char} (hbefore : ClosedDocs before)
    (hinside : NoCommentEnd inside) (hafter : NoDocOpening after) :
    lastDocLines (String.ofList (before ++ docBlock inside ++ after)) = docLines inside := by
  rw [lastDocLines, String.toList_ofList, getLast?_docBlocks hbefore hinside hafter]
  rfl

/-! ## Margins -/

/-- A text without a star at its start. -/
def dropStar : List Char → List Char
  | '*' :: cs => cs
  | cs => cs

/-- A text without one blank at its start. -/
def dropBlank : List Char → List Char
  | c :: cs => if Text.isBlank c then cs else c :: cs
  | [] => []

/-- **A margin is white space, a star and a blank**, each of which may be missing. -/
theorem dropMargin_eq (line : List Char) :
    dropMargin line = Text.trimEnd (dropBlank (dropStar (Text.skipBlank line))) := rfl

/-- A margin of a space, a star and a space is dropped. -/
theorem dropMargin_star (cs : List Char) :
    dropMargin (' ' :: '*' :: ' ' :: cs) = Text.trimEnd cs := rfl

theorem dropStar_isSuffix (cs : List Char) : dropStar cs <:+ cs := by
  rw [dropStar.eq_def]
  split
  · exact List.suffix_cons _ _
  · exact List.suffix_rfl

theorem dropBlank_isSuffix (cs : List Char) : dropBlank cs <:+ cs := by
  cases cs with
  | nil => exact List.suffix_rfl
  | cons c cs =>
    rw [dropBlank]
    split
    · exact List.suffix_cons c cs
    · exact List.suffix_rfl

/-- What is left of a line stands in it. -/
theorem dropMargin_isInfix (line : List Char) : dropMargin line <:+: line := by
  rw [dropMargin_eq]
  exact (Text.trimEnd_isPrefix _).isInfix.trans (((dropBlank_isSuffix _).trans
    (dropStar_isSuffix _)).trans (List.dropWhile_suffix _)).isInfix

/-- A tag and what stands before it, none of which begins a tag. -/
def BehindMargin (cs line : List Char) : Prop := ∃ lead, '@' ∉ lead ∧ line = lead ++ '@' :: cs

theorem BehindMargin.skipBlank {line : List Char} (h : BehindMargin cs line) :
    BehindMargin cs (Text.skipBlank line) := by
  obtain ⟨lead, hlead, rfl⟩ := h
  have hdrop := List.dropWhile_sublist (l := lead) Text.isBlank
  refine ⟨lead.dropWhile Text.isBlank, fun hmem => hlead (hdrop.subset hmem), ?_⟩
  rw [Text.skipBlank, List.dropWhile_append]
  split
  · next hnil =>
    rw [List.isEmpty_iff.1 hnil, List.dropWhile_cons_of_neg (by decide), List.nil_append]
  · rfl

theorem BehindMargin.dropStar {line : List Char} (h : BehindMargin cs line) :
    BehindMargin cs (dropStar line) := by
  obtain ⟨lead, hlead, rfl⟩ := h
  rw [ElementBindings.dropStar.eq_def]
  split
  · next tail htail =>
    cases lead with
    | nil => exact absurd (List.cons.inj htail).1 (by decide)
    | cons c lead =>
      exact ⟨lead, fun hmem => hlead (List.mem_cons_of_mem c hmem), (List.cons.inj htail).2.symm⟩
  · exact ⟨lead, hlead, rfl⟩

theorem BehindMargin.dropBlank {line : List Char} (h : BehindMargin cs line) :
    BehindMargin cs (dropBlank line) := by
  obtain ⟨lead, hlead, rfl⟩ := h
  cases lead with
  | nil => exact ⟨[], hlead, rfl⟩
  | cons c lead =>
    rw [List.cons_append, ElementBindings.dropBlank]
    split
    · exact ⟨lead, fun hmem => hlead (List.mem_cons_of_mem c hmem), rfl⟩
    · exact ⟨c :: lead, hlead, rfl⟩

/-- **A tag stays when the margin before it is dropped**, in part or whole. -/
theorem BehindMargin.dropMargin {line : List Char} (h : BehindMargin cs line) :
    BehindMargin (Text.trimEnd cs) (dropMargin line) := by
  obtain ⟨lead, hlead, hline⟩ := h.skipBlank.dropStar.dropBlank
  refine ⟨lead, hlead, ?_⟩
  rw [dropMargin_eq, hline]
  exact Text.dropEnd_append_cons (by decide) lead cs

/-! ## Lines -/

/-- **A doc block is read line by line.** -/
theorem docLines_append_newline (above below : List Char) :
    docLines (above ++ '\n' :: below)
      = (Text.splitOn (· == '\n') above).map (fun line => dropMargin (Text.dropReturn line))
        ++ docLines below := by
  rw [docLines, Text.lines_append_newline, List.map_append, List.map_map]
  rfl

/-- What is read of a line stands in the block. -/
theorem infix_of_mem_docLines {line : List Char} (h : line ∈ docLines cs) : line <:+: cs := by
  obtain ⟨whole, hwhole, rfl⟩ := List.mem_map.1 h
  exact (dropMargin_isInfix whole).trans (Text.infix_of_mem_lines hwhole)

theorem infix_of_mem_map_splitOn {line : List Char}
    (h : line ∈ (Text.splitOn (· == '\n') cs).map fun line => dropMargin (Text.dropReturn line)) :
    line <:+: cs := by
  obtain ⟨whole, hwhole, rfl⟩ := List.mem_map.1 h
  exact ((dropMargin_isInfix _).trans (Text.dropReturn_isPrefix whole).isInfix).trans
    (Text.infix_of_mem_splitOn hwhole)

end ElementBindings
