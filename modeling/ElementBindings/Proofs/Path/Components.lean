import ElementBindings.Path.Specifier
import ElementBindings.Proofs.Text.Cutting

/-!
# Proofs/Path/Components — what joined paths and directories name

The components of a path are, but for a root or a `.` in front, what its pieces name (`named`).
Read so, joining is concatenation (`named_join`), and the directory of an absolute path is absolute
(`isAbsolute_of_parent?`).  A name that stands between two slashes is a file name (`IsFileName`).
-/

namespace ElementBindings

namespace Path

/-! ## Pieces -/

theorem pieces_eq_splitOn (p : Path) : p.pieces = p.chars.splitOn '/' :=
  Text.splitOn_eq_splitOnP _ _

theorem slash_notMem_piece {p : Path} {piece : List Char} (h : piece ∈ p.pieces) :
    '/' ∉ piece := fun hc => absurd (Text.not_mem_splitOn h hc) (by decide)

theorem isAbsolute_iff {p : Path} : p.isAbsolute = true ↔ ∃ cs, p.chars = '/' :: cs := by
  rw [isAbsolute, beq_iff_eq, List.head?_eq_some_iff]

/-- The first piece of an absolute path is empty. -/
theorem pieces_of_isAbsolute {p : Path} (h : p.isAbsolute = true) :
    ∃ rest, p.pieces = [] :: rest := by
  obtain ⟨cs, hcs⟩ := isAbsolute_iff.1 h
  refine ⟨cs.splitOn '/', ?_⟩
  rw [pieces_eq_splitOn, hcs]
  exact List.splitOn_append_cons_self [] cs

/-- **Texts with slashes between them are the pieces of what they make.** -/
theorem pieces_intercalate {ns : List String} (hne : ns ≠ []) (h : ∀ s ∈ ns, '/' ∉ s.toList) :
    pieces ⟨"/".intercalate ns⟩ = ns.map String.toList := by
  rw [pieces_eq_splitOn, chars, String.toList_intercalate]
  refine List.splitOn_intercalate '/' (fun l hl => ?_) (by simpa using hne)
  obtain ⟨s, hs, rfl⟩ := List.mem_map.1 hl
  exact h s hs

/-- **The first piece of a path is what stands in front of its first slash.** -/
theorem head?_pieces_iff {p : Path} {piece : List Char} :
    p.pieces.head? = some piece
      ↔ '/' ∉ piece ∧ (p.chars = piece ∨ piece ++ ['/'] <+: p.chars) := by
  have hfirst : ∀ {as bs : List Char}, '/' ∉ as → p.chars = as ++ '/' :: bs →
      p.pieces.head? = some as := fun {as bs} has hp => by
    rw [pieces_eq_splitOn, hp, List.splitOn_append_cons_self_of_not_mem has, List.head?_cons]
  have honly : '/' ∉ p.chars → p.pieces.head? = some p.chars := fun hp => by
    rw [pieces_eq_splitOn, List.splitOn_eq_singleton hp, List.head?_cons]
  constructor
  · intro h
    by_cases hslash : '/' ∈ p.chars
    · obtain ⟨as, bs, hp, has⟩ := List.eq_append_cons_of_mem hslash
      obtain rfl := Option.some.inj ((hfirst has hp).symm.trans h)
      exact ⟨has, Or.inr ⟨bs, by rw [hp, List.append_assoc, List.singleton_append]⟩⟩
    · obtain rfl := Option.some.inj ((honly hslash).symm.trans h)
      exact ⟨hslash, Or.inl rfl⟩
  · rintro ⟨hslash, hp | ⟨rest, hp⟩⟩
    · subst hp
      exact honly hslash
    · rw [List.append_assoc, List.singleton_append] at hp
      exact hfirst hslash hp.symm

/-! ## File names -/

/-- Whether a text can stand between two slashes as a name. -/
def IsFileName (s : String) : Prop := s ≠ "" ∧ s ≠ "." ∧ s ≠ ".." ∧ '/' ∉ s.toList

instance (s : String) : Decidable (IsFileName s) := inferInstanceAs (Decidable (_ ∧ _))

theorem IsFileName.slash_notMem {s : String} (h : IsFileName s) : '/' ∉ s.toList := h.2.2.2

/-- A piece that is no dots names itself. -/
theorem Component.ofPiece?_of_ne {s : String} (h0 : s ≠ "") (h1 : s ≠ ".") (h2 : s ≠ "..") :
    Component.ofPiece? s.toList = some (.name s) := by
  unfold Component.ofPiece?
  split
  · next hs => exact absurd (String.toList_inj.1 (hs.trans (by rfl : [] = "".toList))) h0
  · next hs => exact absurd (String.toList_inj.1 (hs.trans (by rfl : ['.'] = ".".toList))) h1
  · next hs => exact absurd (String.toList_inj.1 (hs.trans (by rfl : ['.', '.'] = "..".toList))) h2
  · rw [String.ofList_toList]

/-- A file name, as a piece, names itself. -/
theorem Component.ofPiece?_toList {s : String} (h : IsFileName s) :
    Component.ofPiece? s.toList = some (.name s) :=
  ofPiece?_of_ne h.1 h.2.1 h.2.2.1

/-- What a piece names is a `..` or a file name. -/
theorem Component.eq_of_ofPiece? {piece : List Char} {c : Component} (hp : '/' ∉ piece)
    (h : Component.ofPiece? piece = some c) : c = .parent ∨ ∃ s, IsFileName s ∧ c = .name s := by
  unfold Component.ofPiece? at h
  split at h
  · exact absurd h (by simp)
  · exact absurd h (by simp)
  · exact Or.inl (Option.some.inj h).symm
  · next h0 h1 h2 =>
    refine Or.inr ⟨String.ofList piece, ⟨fun he => ?_, fun he => ?_, fun he => ?_, ?_⟩,
      (Option.some.inj h).symm⟩
    · exact h0 (by simpa using congrArg String.toList he)
    · exact h1 (by simpa using congrArg String.toList he)
    · exact h2 (by simpa using congrArg String.toList he)
    · rwa [String.toList_ofList]

theorem Component.ofPiece?_of_isVoid {piece : List Char} (h : isVoid piece = true) :
    Component.ofPiece? piece = none := by
  rw [isVoid, Bool.or_eq_true, List.isEmpty_iff, beq_iff_eq] at h
  rcases h with rfl | rfl <;> rfl

/-- File names, as pieces, name themselves. -/
theorem filterMap_ofPiece? {ns : List String} (h : ∀ s ∈ ns, IsFileName s) :
    (ns.map String.toList).filterMap Component.ofPiece? = ns.map .name := by
  rw [List.filterMap_map, ← List.filterMap_eq_map]
  exact List.filterMap_congr fun s hs => Component.ofPiece?_toList (h s hs)

theorem IsFileName.isVoid_toList {s : String} (h : IsFileName s) : isVoid s.toList = false := by
  refine Bool.eq_false_iff.2 fun hv => ?_
  have hnone := Component.ofPiece?_of_isVoid hv
  rw [Component.ofPiece?_toList h] at hnone
  exact absurd hnone (by simp)

/-! ## What a path names -/

/-- What the pieces of a path name: its components, but for a root or a `.` in front. -/
def named (p : Path) : List Component := p.pieces.filterMap Component.ofPiece?

theorem mem_named {p : Path} {c : Component} (h : c ∈ p.named) :
    c = .parent ∨ ∃ s, IsFileName s ∧ c = .name s := by
  obtain ⟨piece, hp, hc⟩ := List.mem_filterMap.1 h
  exact Component.eq_of_ofPiece? (slash_notMem_piece hp) hc

theorem components_of_isAbsolute {p : Path} (h : p.isAbsolute = true) :
    p.components = .root :: p.named := by
  rw [components, if_pos h]
  rfl

/-- A relative path may have a `.` in front of what it names. -/
theorem components_of_not_isAbsolute {p : Path} (h : p.isAbsolute = false) :
    p.components = p.named ∨ p.components = .current :: p.named := by
  rw [components, if_neg (by simp [h])]
  by_cases hc : p.pieces.head? = some ['.']
  · exact Or.inr (if_pos hc)
  · exact Or.inl (if_neg hc)

theorem named_intercalate {ns : List String} (h : ∀ s ∈ ns, '/' ∉ s.toList) :
    (Path.mk ("/".intercalate ns)).named = (ns.map String.toList).filterMap Component.ofPiece? := by
  by_cases hne : ns = []
  · subst hne
    rfl
  · rw [named, pieces_intercalate hne h]

/-- Texts with slashes between them make a relative path when the first is not empty. -/
theorem isAbsolute_intercalate {ns : List String} (h : ∀ s ∈ ns, s ≠ "" ∧ '/' ∉ s.toList) :
    (Path.mk ("/".intercalate ns)).isAbsolute = false := by
  refine Bool.eq_false_iff.2 fun habs => ?_
  cases ns with
  | nil => exact absurd habs (by decide)
  | cons s ns =>
    obtain ⟨rest, hrest⟩ := pieces_of_isAbsolute habs
    rw [pieces_intercalate (List.cons_ne_nil s ns) fun s hs => (h s hs).2, List.map_cons] at hrest
    exact (h s List.mem_cons_self).1 (String.toList_inj.1 (List.cons.inj hrest).1)

/-! ## Joining -/

theorem join_of_isAbsolute {p : Path} (hp : p.isAbsolute = true) (dir : Path) :
    dir.join p = p := if_pos hp

theorem isAbsolute_join {dir : Path} (h : dir.isAbsolute = true) (p : Path) :
    (dir.join p).isAbsolute = true := by
  by_cases hp : p.isAbsolute = true
  · rw [join_of_isAbsolute hp, hp]
  · obtain ⟨cs, hcs⟩ := isAbsolute_iff.1 h
    rw [chars] at hcs
    rw [join, if_neg hp]
    split
    · exact isAbsolute_iff.2 ⟨cs ++ p.chars, by simp [chars, String.toList_append, hcs]⟩
    · exact isAbsolute_iff.2 ⟨cs ++ '/' :: p.chars, by simp [chars, String.toList_append, hcs]⟩

/-- **Joining runs the names together**, whether or not a slash has to be put between them. -/
theorem named_join {p : Path} (hp : p.isAbsolute = false) (dir : Path) :
    (dir.join p).named = dir.named ++ p.named := by
  have hcut : ∀ cs ds : List Char,
      (cs ++ '/' :: ds).splitOn '/' = cs.splitOn '/' ++ ds.splitOn '/' :=
    fun cs ds => List.splitOn_append_cons_self cs ds
  have hnone : Component.ofPiece? [] = none := rfl
  simp only [named, pieces_eq_splitOn, chars]
  rw [join, if_neg (by simp [hp])]
  split
  · next h =>
    rcases h with h | h
    · rw [chars] at h
      simp [h, String.toList_append, hnone]
    · obtain ⟨init, hinit⟩ := List.getLast?_eq_some_iff.1 h
      rw [chars] at hinit
      rw [String.toList_append, hinit, List.append_assoc, List.singleton_append, hcut, hcut,
        List.filterMap_append, List.filterMap_append]
      simp [hnone]
  · rw [String.toList_append, String.toList_append, List.append_assoc,
      show "/".toList = ['/'] from rfl, List.singleton_append, hcut, List.filterMap_append]

/-! ## The directory of a path -/

/-- The pieces that are left out at the end of a path name nothing. -/
theorem named_eq_filterMap_namedPieces (p : Path) :
    p.named = p.namedPieces.filterMap Component.ofPiece? := by
  rw [named, namedPieces]
  cases p.pieces with
  | nil => rfl
  | cons first rest =>
    obtain ⟨tail, hrest, htail⟩ := Text.dropEnd_append isVoid rest
    have hnone : tail.filterMap Component.ofPiece? = [] :=
      List.filterMap_eq_nil_iff.2 fun c hc => Component.ofPiece?_of_isVoid (htail c hc)
    calc (first :: rest).filterMap Component.ofPiece?
        = (first :: Text.dropEnd isVoid rest ++ tail).filterMap Component.ofPiece? := by
          rw [List.cons_append, ← hrest]
      _ = (first :: Text.dropEnd isVoid rest).filterMap Component.ofPiece? := by
          rw [List.filterMap_append, hnone, List.append_nil]

theorem named_ne_nil_of_fileName? {p : Path} (h : p.fileName?.isSome = true) : p.named ≠ [] := by
  intro hnil
  rw [named_eq_filterMap_namedPieces, List.filterMap_eq_nil_iff] at hnil
  rw [fileName?] at h
  cases hl : p.namedPieces.getLast? with
  | none => simp [hl] at h
  | some piece => simp [hl, hnil piece (List.mem_of_getLast? hl)] at h

/-- **A path that names something has a directory.** -/
theorem isSome_parent?_of_named_ne_nil {p : Path} (h : p.named ≠ []) : p.parent?.isSome = true := by
  rw [named_eq_filterMap_namedPieces] at h
  rw [parent?]
  split
  · next hp => exact absurd (by rw [hp]; rfl) h
  · next hp => exact absurd (by rw [hp]; rfl) h
  · rfl
  · rfl

theorem isAbsolute_ofPieces {pieces : List (List Char)} (h : pieces.head? = some []) :
    (ofPieces pieces).isAbsolute = true := by
  obtain ⟨rest, rfl⟩ := List.head?_eq_some_iff.1 h
  cases rest with
  | nil => rfl
  | cons piece rest =>
    refine isAbsolute_iff.2 ⟨['/'].intercalate (piece :: rest), ?_⟩
    rw [chars, ofPieces, String.toList_ofList, List.intercalate_cons_cons]
    · rfl
    · exact fun hc => absurd hc (by simp)

theorem namedPieces_of_isAbsolute {p : Path} (h : p.isAbsolute = true) :
    ∃ rest, p.namedPieces = [] :: rest := by
  obtain ⟨rest, hrest⟩ := pieces_of_isAbsolute h
  exact ⟨Text.dropEnd isVoid rest, by rw [namedPieces, hrest]⟩

/-- **The directory of an absolute path is absolute.** -/
theorem isAbsolute_of_parent? {p q : Path} (hp : p.isAbsolute = true) (h : p.parent? = some q) :
    q.isAbsolute = true := by
  obtain ⟨rest, hrest⟩ := namedPieces_of_isAbsolute hp
  rw [parent?, hrest] at h
  cases rest with
  | nil => exact absurd h (by simp)
  | cons piece pieces =>
    obtain rfl := Option.some.inj h
    exact isAbsolute_ofPieces rfl

end Path

end ElementBindings
