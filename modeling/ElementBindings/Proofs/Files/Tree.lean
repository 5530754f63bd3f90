import ElementBindings.Files.Tree
import ElementBindings.Proofs.Path.Components
import Mathlib.Data.List.Infix

/-!
# Proofs/Files/Tree — what putting a node changes

Putting a node changes a tree at one place.  What stands there is the new node (`at?_put_append`),
what stands on the way there is set one entry deeper (`at?_put_above`), and anything apart from
that is as it was (`at?_put_apart`).
-/

namespace ElementBindings

namespace FileNode

variable {n m node : FileNode} {name other : String} {place rest : List String}
  {entries : List (String × FileNode)}

/-! ## Entries -/

theorem lookup_setEntry_self (name : String) (node : FileNode)
    (entries : List (String × FileNode)) :
    (setEntry name node entries).lookup name = some node := by
  induction entries with
  | nil => simp [setEntry]
  | cons e es ih =>
    rw [setEntry]
    split
    · exact List.lookup_cons_self
    · next hne => rw [List.lookup_cons, beq_false_of_ne (Ne.symm hne), ih]

theorem lookup_setEntry_of_ne (h : other ≠ name) (node : FileNode)
    (entries : List (String × FileNode)) :
    (setEntry name node entries).lookup other = entries.lookup other := by
  induction entries with
  | nil => simp [setEntry, List.lookup_cons, beq_false_of_ne h]
  | cons e es ih =>
    rw [setEntry]
    split
    · next heq =>
      rw [List.lookup_cons, List.lookup_cons, heq, beq_false_of_ne h]
    · rw [List.lookup_cons, List.lookup_cons, ih]

theorem mem_setEntry {e : String × FileNode} (h : e ∈ setEntry name node entries) :
    e = (name, node) ∨ e ∈ entries := by
  induction entries with
  | nil => exact Or.inl (List.mem_singleton.1 h)
  | cons e' es ih =>
    rw [setEntry] at h
    split at h
    · exact (List.mem_cons.1 h).imp_right (List.mem_cons_of_mem e')
    · rcases List.mem_cons.1 h with rfl | h
      · exact Or.inr List.mem_cons_self
      · exact (ih h).imp_right (List.mem_cons_of_mem e')

/-- Entries of other names are passed over. -/
theorem setEntry_append {before : List (String × FileNode)} (h : ∀ e ∈ before, e.1 ≠ name)
    (node : FileNode) (after : List (String × FileNode)) :
    setEntry name node (before ++ after) = before ++ setEntry name node after := by
  induction before with
  | nil => rfl
  | cons e es ih =>
    rw [List.cons_append, setEntry, if_neg (h e List.mem_cons_self),
      ih fun e he => h e (List.mem_cons_of_mem _ he), List.cons_append]

/-- An entry of a new name comes behind the others. -/
theorem setEntry_of_lookup_eq_none (h : entries.lookup name = none) (node : FileNode) :
    setEntry name node entries = entries ++ [(name, node)] := by
  have hne : ∀ e ∈ entries, e.1 ≠ name := fun e he heq =>
    absurd (List.lookup_eq_none_iff.1 h e he) (by simp [heq])
  simpa [setEntry] using setEntry_append hne node []

/-- An entry of a name that is there takes its place. -/
theorem exists_setEntry_eq (h : entries.lookup name = some m) :
    ∃ before after, entries = before ++ (name, m) :: after ∧
      ∀ node, setEntry name node entries = before ++ (name, node) :: after := by
  obtain ⟨before, after, rfl, hbefore⟩ := List.lookup_eq_some_iff.1 h
  have hne : ∀ e ∈ before, e.1 ≠ name := fun e he heq =>
    absurd (hbefore e he) (by simp [heq])
  exact ⟨before, after, rfl, fun node => by rw [setEntry_append hne, setEntry, if_pos rfl]⟩

/-- The entry set last stays. -/
theorem setEntry_setEntry (name : String) (m node : FileNode)
    (entries : List (String × FileNode)) :
    setEntry name node (setEntry name m entries) = setEntry name node entries := by
  induction entries with
  | nil => simp [setEntry]
  | cons e es ih =>
    rw [setEntry, setEntry]
    split
    · rw [setEntry, if_pos rfl]
    · next hne => rw [setEntry, if_neg hne, ih]

/-- Setting an entry keeps the names distinct. -/
theorem nodup_setEntry (h : (entries.map (·.1)).Nodup) :
    ((setEntry name node entries).map (·.1)).Nodup := by
  cases hm : entries.lookup name with
  | none =>
    rw [setEntry_of_lookup_eq_none hm, List.map_append, List.nodup_append]
    refine ⟨h, by simp, fun s hs t ht => ?_⟩
    obtain rfl : t = name := by simpa using ht
    obtain ⟨e, he, rfl⟩ := List.mem_map.1 hs
    rintro rfl
    exact absurd he (by simpa using List.lookup_eq_none_iff.1 hm e)
  | some m =>
    obtain ⟨before, after, hentries, hset⟩ := exists_setEntry_eq hm
    rw [hset]
    simpa [hentries] using h

/-! ## What stands at a place -/

@[simp] theorem at?_nil (n : FileNode) : n.at? [] = some n := rfl

@[simp] theorem at?_directory_cons (entries : List (String × FileNode)) (name : String)
    (names : List String) :
    (directory entries).at? (name :: names) = (entries.lookup name).bind (·.at? names) := rfl

/-- Only directories have anything below them. -/
theorem exists_directory_of_at?_cons {names : List String} (h : n.at? (name :: names) = some m) :
    ∃ entries below, n = directory entries ∧ entries.lookup name = some below ∧
      below.at? names = some m := by
  cases n with
  | file content => exact absurd h (by simp [at?])
  | link target => exact absurd h (by simp [at?])
  | directory entries =>
    obtain ⟨below, hbelow, hm⟩ := Option.bind_eq_some_iff.1 h
    exact ⟨entries, below, rfl, hbelow, hm⟩

theorem at?_append (n : FileNode) (as bs : List String) :
    n.at? (as ++ bs) = (n.at? as).bind (·.at? bs) := by
  induction as generalizing n with
  | nil => rfl
  | cons a as ih =>
    cases n with
    | file content => rfl
    | link target => rfl
    | directory entries =>
      rw [List.cons_append, at?_directory_cons, at?_directory_cons, Option.bind_assoc]
      exact congrArg _ (funext ih)

/-! ## Putting -/

@[simp] theorem put_nil (n node : FileNode) : n.put [] node = node := by
  cases n <;> rfl

/-- Putting below a directory sets one of its entries, unless the way down breaks off there. -/
theorem put_directory_cons (entries : List (String × FileNode)) (name : String)
    (names : List String) (node : FileNode) :
    (directory entries).put (name :: names) node =
      match entries.lookup name, names with
      | some below, _ => directory (setEntry name (below.put names node) entries)
      | none, [] => directory (setEntry name node entries)
      | none, _ => directory entries := rfl

/-- **What is put stands at its place**, if a directory is there to hold it. -/
theorem at?_put_append (hdir : n.at? place = some (directory entries)) (name : String)
    (node : FileNode) (rest : List String) :
    (n.put (place ++ [name]) node).at? (place ++ name :: rest) = node.at? rest := by
  induction place generalizing n with
  | nil =>
    obtain rfl := Option.some.inj hdir
    rw [List.nil_append, List.nil_append, put_directory_cons]
    split <;> simp_all [lookup_setEntry_self]
  | cons head place ih =>
    obtain ⟨entries', below, rfl, hbelow, hdir⟩ := exists_directory_of_at?_cons hdir
    rw [List.cons_append, List.cons_append, put_directory_cons, hbelow]
    rw [at?_directory_cons, lookup_setEntry_self]
    exact ih hdir

/-- **On the way there something is put further down.** -/
theorem at?_put_above (n node : FileNode) (above : List String) (hrest : rest ≠ []) :
    (n.put (above ++ rest) node).at? above = (n.at? above).map (·.put rest node) := by
  induction above generalizing n with
  | nil => rfl
  | cons head above ih =>
    cases n with
    | file content => rfl
    | link target => rfl
    | directory entries =>
      rw [List.cons_append, put_directory_cons, at?_directory_cons]
      cases hbelow : entries.lookup head with
      | some below =>
        simp only [at?_directory_cons, lookup_setEntry_self, Option.bind_some]
        exact ih below
      | none =>
        have hne : above ++ rest ≠ [] := List.append_ne_nil_of_right_ne_nil above hrest
        simp [hbelow]

/-- **Apart from that nothing changes.** -/
theorem at?_put_apart (n node : FileNode) {q : List String} (hbelow : ¬place <+: q)
    (habove : ¬q <+: place) : (n.put place node).at? q = n.at? q := by
  induction place generalizing n q with
  | nil => exact absurd List.nil_prefix hbelow
  | cons head place ih =>
    cases q with
    | nil => exact absurd List.nil_prefix habove
    | cons name q =>
      cases n with
      | file content => rfl
      | link target => rfl
      | directory entries =>
        rw [put_directory_cons]
        by_cases hname : name = head
        · subst hname
          rw [List.cons_prefix_cons, and_iff_right rfl] at hbelow habove
          cases hentry : entries.lookup name with
          | some below =>
            simp only [at?_directory_cons, lookup_setEntry_self, hentry, Option.bind_some]
            exact ih below hbelow habove
          | none =>
            have hplace : place ≠ [] := fun h => hbelow (h ▸ List.nil_prefix)
            simp [hentry]
        · cases hentry : entries.lookup head with
          | some below => simp [lookup_setEntry_of_ne hname]
          | none => cases place <;> simp [lookup_setEntry_of_ne hname]

/-- Putting what is there changes nothing. -/
theorem put_eq_self (h : n.at? place = some node) : n.put place node = n := by
  induction place generalizing n with
  | nil =>
    obtain rfl := Option.some.inj h
    exact put_nil n n
  | cons head place ih =>
    obtain ⟨entries, below, rfl, hbelow, h⟩ := exists_directory_of_at?_cons h
    obtain ⟨before, after, hentries, hset⟩ := exists_setEntry_eq hbelow
    rw [put_directory_cons, hbelow]
    dsimp only
    rw [ih h, hset, ← hentries]

/-- What is put last stays. -/
theorem put_put (n m node : FileNode) (place : List String) :
    (n.put place m).put place node = n.put place node := by
  induction place generalizing n with
  | nil => rw [put_nil, put_nil]
  | cons head place ih =>
    cases n with
    | file content => rfl
    | link target => rfl
    | directory entries =>
      cases hbelow : entries.lookup head with
      | some below =>
        simp only [put_directory_cons, hbelow, lookup_setEntry_self, ih, setEntry_setEntry]
      | none =>
        cases place with
        | nil =>
          simp only [put_directory_cons, hbelow, lookup_setEntry_self, put_nil, setEntry_setEntry]
        | cons name names => simp only [put_directory_cons, hbelow]

/-! ## Regular files -/

/-- The places of the regular files of a tree, seen from its root. -/
def filePlaces (n : FileNode) : List (List String) := n.files.map (·.1)

theorem filePlaces_directory (entries : List (String × FileNode)) :
    (directory entries).filePlaces = entries.flatMap fun e => e.2.filePlaces.map (e.1 :: ·) := by
  rw [filePlaces, files]
  induction entries with
  | nil => rfl
  | cons e es ih =>
    rw [filesOf, List.map_append, ih, List.flatMap_cons, filePlaces, List.map_map, List.map_map]
    rfl

/-- **Putting a node lists no other places than before**, as far as some places go, if it does not
below the node. -/
theorem filter_filePlaces_put {P : List String → Bool}
    (h : (node.filePlaces.filter fun q => P (place ++ q))
      = ((n.at? place).elim [] filePlaces).filter fun q => P (place ++ q)) :
    (n.put place node).filePlaces.filter P = n.filePlaces.filter P := by
  induction place generalizing n P with
  | nil => simpa using h
  | cons head place ih =>
    cases n with
    | file content => rfl
    | link target => rfl
    | directory entries =>
      rw [put_directory_cons]
      cases hbelow : entries.lookup head with
      | some below =>
        obtain ⟨before, after, hentries, hset⟩ := exists_setEntry_eq hbelow
        have hsame := ih (n := below) (P := fun q => P (head :: q)) (by simpa [hbelow] using h)
        show (directory (setEntry head (below.put place node) entries)).filePlaces.filter P = _
        simp only [hset]
        simp only [hentries, filePlaces_directory, List.flatMap_append, List.flatMap_cons,
          List.filter_append, List.filter_map]
        exact congrArg (_ ++ ·) (congrArg (·.map (head :: ·) ++ _) hsame)
      | none =>
        cases place with
        | cons name names => rfl
        | nil =>
          simp only [setEntry_of_lookup_eq_none hbelow, filePlaces_directory, List.flatMap_append,
            List.flatMap_cons, List.flatMap_nil, List.append_nil, List.filter_append,
            List.filter_map]
          rw [List.append_right_eq_self, List.map_eq_nil_iff]
          simpa [hbelow] using h

/-! ## Well-named trees -/

mutual

/-- Whether a node has no links in it, and directories with distinct names of files only. -/
def isPlain : FileNode → Bool
  | file _ => true
  | link _ => false
  | directory entries => areEntriesPlain entries

/-- Whether entries have distinct names of files and plain nodes. -/
def areEntriesPlain : List (String × FileNode) → Bool
  | [] => true
  | (name, n) :: es =>
    decide (Path.IsFileName name) && es.all (·.1 != name) && n.isPlain && areEntriesPlain es

end

theorem isPlain_of_areEntriesPlain (h : areEntriesPlain entries = true) :
    (∀ e ∈ entries, Path.IsFileName e.1 ∧ e.2.isPlain = true) ∧ (entries.map (·.1)).Nodup := by
  induction entries with
  | nil => exact ⟨by simp, by simp⟩
  | cons e es ih =>
    simp only [areEntriesPlain, Bool.and_eq_true, decide_eq_true_eq, List.all_eq_true,
      bne_iff_ne] at h
    obtain ⟨⟨⟨hname, hne⟩, hplain⟩, hes⟩ := h
    obtain ⟨hes, hnodup⟩ := ih hes
    refine ⟨List.forall_mem_cons.2 ⟨⟨hname, hplain⟩, hes⟩, List.nodup_cons.2 ⟨?_, hnodup⟩⟩
    rintro hmem
    obtain ⟨e', he', heq⟩ := List.mem_map.1 hmem
    exact hne e' he' heq

/-- What stands in a plain node is plain. -/
theorem isPlain_of_at? (h : n.isPlain = true) (hm : n.at? place = some m) : m.isPlain = true := by
  induction place generalizing n with
  | nil => exact Option.some.inj hm ▸ h
  | cons head place ih =>
    obtain ⟨entries, below, rfl, hbelow, hbelow'⟩ := exists_directory_of_at?_cons hm
    obtain ⟨before, after, rfl, -⟩ := List.lookup_eq_some_iff.1 hbelow
    rw [isPlain] at h
    exact ih ((isPlain_of_areEntriesPlain h).1 (head, below) (by simp)).2 hbelow'

end FileNode

namespace FileTree

variable {t : FileTree} {place q : List String} {name : String} {content : ByteArray}

/-! ## Trees without links -/

/-- The content of the regular file at a place. -/
def fileAt? (t : FileTree) (place : List String) : Option ByteArray :=
  match t.at? place with
  | some (.file content) => some content
  | _ => none

/-- Whether a directory stands at a place. -/
def HasDirectory (t : FileTree) (place : List String) : Prop :=
  ∃ entries, t.at? place = some (.directory entries)

/-- Whether no place is a symbolic link. -/
def Linkless (t : FileTree) : Prop := ∀ place target, t.at? place ≠ some (.link target)

/-- **Whether a tree is one that a disk without links can hold** — what a directory has in it bears
names of files, each of them once. -/
structure Plain (t : FileTree) : Prop where
  linkless : t.Linkless
  isFileName : ∀ {place entries}, t.at? place = some (.directory entries) →
    ∀ e ∈ entries, Path.IsFileName e.1
  nodup : ∀ {place entries}, t.at? place = some (.directory entries) →
    (entries.map (·.1)).Nodup

theorem fileAt?_eq_some_iff :
    t.fileAt? place = some content ↔ t.at? place = some (.file content) := by
  rw [fileAt?]
  split
  · next heq => simp [heq]
  · next hne => exact iff_of_false (by simp) (hne content)

theorem put_eq_self {node : FileNode} (h : t.at? place = some node) : t.put place node = t :=
  congrArg FileTree.mk (FileNode.put_eq_self h)

theorem put_put (t : FileTree) (place : List String) (m node : FileNode) :
    (t.put place m).put place node = t.put place node :=
  congrArg FileTree.mk (FileNode.put_put t.root m node place)

/-- Without links there are files and directories only. -/
theorem Linkless.cases (h : t.Linkless) (place : List String) :
    t.at? place = none ∨ t.HasDirectory place ∨ ∃ content, t.at? place = some (.file content) := by
  cases hat : t.at? place with
  | none => exact Or.inl rfl
  | some n =>
    cases n with
    | file content => exact Or.inr (Or.inr ⟨content, rfl⟩)
    | link target => exact absurd hat (h place target)
    | directory entries => exact Or.inr (Or.inl ⟨entries, hat⟩)

theorem not_hasDirectory_of_free
    (h : t.at? place = none ∨ ∃ content, t.at? place = some (.file content)) :
    ¬t.HasDirectory place := by
  rintro ⟨entries, hdir⟩
  rcases h with hnone | ⟨content, hfile⟩
  · exact absurd (hnone.symm.trans hdir) (by simp)
  · exact absurd (hfile.symm.trans hdir) (by simp)

/-- Where no directory is, there is nothing or a file. -/
theorem Linkless.free_of_not_hasDirectory (h : t.Linkless) (hdir : ¬t.HasDirectory place) :
    t.at? place = none ∨ ∃ content, t.at? place = some (.file content) :=
  (h.cases place).imp_right (Or.resolve_left · hdir)

theorem at?_append (t : FileTree) (as bs : List String) :
    t.at? (as ++ bs) = (t.at? as).bind (·.at? bs) := FileNode.at?_append t.root as bs

/-- What stands somewhere stands in a directory. -/
theorem hasDirectory_of_isSome_at? (h : (t.at? (place ++ name :: q)).isSome = true) :
    t.HasDirectory place := by
  obtain ⟨m, hm⟩ := Option.isSome_iff_exists.1 h
  rw [at?_append, Option.bind_eq_some_iff] at hm
  obtain ⟨n, hn, hm⟩ := hm
  obtain ⟨entries, -, rfl, -, -⟩ := FileNode.exists_directory_of_at?_cons hm
  exact ⟨entries, hn⟩

/-- **A tree can be checked for being plain.** -/
theorem plain_of_isPlain (h : t.root.isPlain = true) : t.Plain where
  linkless place target hlink :=
    absurd (FileNode.isPlain_of_at? h hlink) (by simp [FileNode.isPlain])
  isFileName hdir e he :=
    ((FileNode.isPlain_of_areEntriesPlain (FileNode.isPlain_of_at? h hdir)).1 e he).1
  nodup hdir := (FileNode.isPlain_of_areEntriesPlain (FileNode.isPlain_of_at? h hdir)).2

/-- The entries of a directory stand below it. -/
theorem Plain.at?_of_mem (h : t.Plain) {entries : List (String × FileNode)}
    (hdir : t.at? place = some (.directory entries)) {e : String × FileNode} (he : e ∈ entries) :
    t.at? (place ++ [e.1]) = some e.2 := by
  obtain ⟨before, after, rfl⟩ := List.append_of_mem he
  have hnodup := h.nodup hdir
  rw [List.map_append, List.map_cons, List.nodup_append] at hnodup
  rw [at?_append, hdir, Option.bind_some, FileNode.at?_directory_cons,
    List.lookup_eq_some_iff.2 ⟨before, after, rfl, fun p hp => ?_⟩, Option.bind_some,
    FileNode.at?_nil]
  exact bne_iff_ne.2 (Ne.symm (hnodup.2.2 _ (List.mem_map_of_mem hp) _ List.mem_cons_self))

end FileTree

end ElementBindings
