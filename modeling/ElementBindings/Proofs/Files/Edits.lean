import ElementBindings.Proofs.Files.Tree
import Mathlib.Data.Set.Insert
import Mathlib.Logic.Relation

/-!
# Proofs/Files/Edits — making directories and writing some files

A program that writes files at some places edits a tree in two ways: it makes a directory where
nothing is, and it puts a file where nothing or a file is.  One edit leaves everything but a single
place as it was, up to the entries of the directories around it (`Edit.at?_cases`), and what follows
for one edit holds behind any number of them.
-/

namespace ElementBindings.FileTree

variable {t t' u : FileTree} {outs outs' : Set (List String)} {place q : List String}
  {name : String}

/-! ## One edit -/

/-- Whether a name is one that a directory at a place can hold. -/
structure Fits (t : FileTree) (place : List String) (name : String) : Prop where
  isFileName : ∀ s ∈ place ++ [name], Path.IsFileName s
  hasDirectory : t.HasDirectory place

/-- **One edit of a tree**, by which files are written at given places only. -/
inductive Edit (outs : Set (List String)) (t : FileTree) : FileTree → Prop where
  | directory {place : List String} {name : String} (hfits : t.Fits place name)
      (hnone : t.at? (place ++ [name]) = none) :
      Edit outs t (t.put (place ++ [name]) (.directory []))
  | file {place : List String} {name : String} {content : ByteArray} (hfits : t.Fits place name)
      (hfree : t.at? (place ++ [name]) = none ∨ ∃ old, t.at? (place ++ [name]) = some (.file old))
      (hout : place ++ [name] ∈ outs) :
      Edit outs t (t.put (place ++ [name]) (.file content))

/-- On the way to a name that fits there are directories. -/
theorem Fits.hasDirectory_above (h : t.Fits place name) {s : String} {rest : List String}
    (heq : q ++ s :: rest = place ++ [name]) : t.HasDirectory q := by
  rcases List.prefix_concat_iff.1 ⟨s :: rest, heq⟩ with rfl | ⟨ns, rfl⟩
  · exact absurd (List.append_right_eq_self.1 heq) (List.cons_ne_nil s rest)
  · obtain ⟨entries, hdir⟩ := h.hasDirectory
    cases ns with
    | nil => exact ⟨entries, by rwa [List.append_nil] at hdir⟩
    | cons s ns => exact hasDirectory_of_isSome_at? (by rw [hdir]; rfl)

/-- On the way to where a node is put, at most one entry of a directory changes. -/
theorem Fits.at?_put_above (h : t.Fits place name) (node : FileNode) {s : String}
    {rest : List String} (heq : q ++ s :: rest = place ++ [name]) :
    (t.put (place ++ [name]) node).at? q = t.at? q ∨
    ∃ entries s below, t.at? q = some (.directory entries) ∧ Path.IsFileName s ∧
      (t.put (place ++ [name]) node).at? q
        = some (.directory (FileNode.setEntry s below entries)) := by
  have hput : (t.put (place ++ [name]) node).at? q = (t.at? q).map (·.put (s :: rest) node) := by
    rw [← heq]
    exact FileNode.at?_put_above t.root node q (List.cons_ne_nil s rest)
  obtain ⟨entries, hdir⟩ := h.hasDirectory_above heq
  have hs : Path.IsFileName s := h.isFileName s (heq ▸ by simp)
  rw [hput, hdir, Option.map_some, FileNode.put_directory_cons]
  split
  · exact Or.inr ⟨_, _, _, rfl, hs, rfl⟩
  · exact Or.inr ⟨_, _, _, rfl, hs, rfl⟩
  · exact Or.inl rfl

/-- **Where a node is put the tree is as it was elsewhere**, up to one entry of the directories on
the way, if the node has nothing below it and takes the place of nothing or of a file. -/
theorem Fits.at?_put_cases (h : t.Fits place name) {node : FileNode}
    (hfree : t.at? (place ++ [name]) = none ∨ ∃ old, t.at? (place ++ [name]) = some (.file old))
    (hleaf : ∀ s rest, node.at? (s :: rest) = none) (q : List String) :
    (t.put (place ++ [name]) node).at? q = t.at? q ∨
    q = place ++ [name] ∧ (t.put (place ++ [name]) node).at? q = some node ∨
    ∃ entries s below, t.at? q = some (.directory entries) ∧ Path.IsFileName s ∧
      (t.put (place ++ [name]) node).at? q
        = some (.directory (FileNode.setEntry s below entries)) := by
  by_cases hbelow : place ++ [name] <+: q
  · -- at the node or below it
    obtain ⟨rest, rfl⟩ := hbelow
    obtain ⟨entries, hdir⟩ := h.hasDirectory
    have hput : (t.put (place ++ [name]) node).at? (place ++ [name] ++ rest) = node.at? rest := by
      rw [List.append_assoc]
      exact FileNode.at?_put_append hdir name node rest
    cases rest with
    | nil => exact Or.inr (Or.inl ⟨List.append_nil _, hput⟩)
    | cons s rest =>
      refine Or.inl (hput.trans ?_)
      rw [hleaf, at?_append]
      rcases hfree with hnone | ⟨old, hold⟩
      · rw [hnone]
        rfl
      · rw [hold]
        rfl
  · by_cases habove : q <+: place ++ [name]
    · obtain ⟨rest, heq⟩ := habove
      cases rest with
      | nil => exact absurd ⟨[], by rw [← heq, List.append_nil, List.append_nil]⟩ hbelow
      | cons s rest => exact (h.at?_put_above node heq).imp_right Or.inr
    · exact Or.inl (FileNode.at?_put_apart t.root node hbelow habove)

/-- **What an edit changes**: an empty directory where nothing was, a file at one of the places, and
the entries of directories. -/
theorem Edit.at?_cases (h : Edit outs t t') (q : List String) :
    t'.at? q = t.at? q ∨
    (t.at? q = none ∧ t'.at? q = some (.directory [])) ∨
    (q ∈ outs ∧ (t.at? q = none ∨ ∃ old, t.at? q = some (.file old)) ∧
      ∃ content, t'.at? q = some (.file content)) ∨
    ∃ entries s below, t.at? q = some (.directory entries) ∧ Path.IsFileName s ∧
      t'.at? q = some (.directory (FileNode.setEntry s below entries)) := by
  cases h with
  | directory hfits hnone =>
    have hleaf : ∀ s rest, (FileNode.directory []).at? (s :: rest) = none := fun _ _ => rfl
    rcases hfits.at?_put_cases (Or.inl hnone) hleaf q with h | ⟨rfl, h⟩ | h
    · exact Or.inl h
    · exact Or.inr (Or.inl ⟨hnone, h⟩)
    · exact Or.inr (Or.inr (Or.inr h))
  | @file place name content hfits hfree hout =>
    have hleaf : ∀ s rest, (FileNode.file content).at? (s :: rest) = none := fun _ _ => rfl
    rcases hfits.at?_put_cases hfree hleaf q with h | ⟨rfl, h⟩ | h
    · exact Or.inl h
    · exact Or.inr (Or.inr (Or.inl ⟨hout, hfree, _, h⟩))
    · exact Or.inr (Or.inr (Or.inr h))

theorem Edit.mono (h : Edit outs t t') (hsub : outs ⊆ outs') : Edit outs' t t' := by
  cases h with
  | directory hfits hnone => exact .directory hfits hnone
  | file hfits hfree hout => exact .file hfits hfree (hsub hout)

/-! ## What is kept -/

/-- **Whether all that is in a tree is in another one too**, directories as directories and files as
files. -/
structure Grows (t t' : FileTree) : Prop where
  hasDirectory : ∀ {q}, t.HasDirectory q → t'.HasDirectory q
  isSome_fileAt? : ∀ {q}, (t.fileAt? q).isSome = true → (t'.fileAt? q).isSome = true

theorem Grows.refl (t : FileTree) : t.Grows t := ⟨id, id⟩

theorem Grows.trans (h : t.Grows t') (h' : t'.Grows u) : t.Grows u :=
  ⟨h'.hasDirectory ∘ h.hasDirectory, h'.isSome_fileAt? ∘ h.isSome_fileAt?⟩

theorem Grows.isSome_at? (h : t.Grows t') (ht : t.Linkless) (hq : (t.at? q).isSome = true) :
    (t'.at? q).isSome = true := by
  rcases ht.cases q with hnone | hdir | ⟨content, hfile⟩
  · rw [hnone] at hq
    exact absurd hq (by simp)
  · obtain ⟨entries, hdir⟩ := h.hasDirectory hdir
    rw [hdir]
    rfl
  · have hsome := h.isSome_fileAt? (by rw [fileAt?_eq_some_iff.2 hfile]; rfl)
    obtain ⟨new, hnew⟩ := Option.isSome_iff_exists.1 hsome
    rw [fileAt?_eq_some_iff.1 hnew]
    rfl

/-- **An edit takes nothing away.** -/
theorem Edit.grows (h : Edit outs t t') : t.Grows t' where
  hasDirectory := by
    rintro q ⟨entries, hq⟩
    rcases h.at?_cases q with h | ⟨hnone, -⟩ | ⟨-, hnone | ⟨old, hold⟩, -⟩ | ⟨_, s, below, -, -, h⟩
    · exact ⟨entries, h.trans hq⟩
    · exact absurd (hnone.symm.trans hq) (by simp)
    · exact absurd (hnone.symm.trans hq) (by simp)
    · exact absurd (hold.symm.trans hq) (by simp)
    · exact ⟨_, h⟩
  isSome_fileAt? := by
    intro q hsome
    obtain ⟨content, hq⟩ := Option.isSome_iff_exists.1 hsome
    rw [fileAt?_eq_some_iff] at hq
    rw [Option.isSome_iff_exists]
    simp only [fileAt?_eq_some_iff]
    rcases h.at?_cases q with h | ⟨hnone, -⟩ | ⟨-, -, new, h⟩ | ⟨_, s, below, hdir, -⟩
    · exact ⟨content, h.trans hq⟩
    · exact absurd (hnone.symm.trans hq) (by simp)
    · exact ⟨new, h⟩
    · exact absurd (hdir.symm.trans hq) (by simp)

/-- **An edit leaves every file at another place.** -/
theorem Edit.fileAt?_eq (h : Edit outs t t') (hq : q ∉ outs) : t'.fileAt? q = t.fileAt? q := by
  rw [fileAt?, fileAt?]
  rcases h.at?_cases q with h | ⟨hnone, h⟩ | ⟨hout, -⟩ | ⟨_, s, below, hdir, -, h⟩
  · rw [h]
  · rw [h, hnone]
  · exact absurd hout hq
  · rw [h, hdir]

/-- An edit makes no links. -/
theorem Edit.linkless (h : Edit outs t t') (ht : t.Linkless) : t'.Linkless := by
  intro q target heq
  rcases h.at?_cases q with h | ⟨-, h⟩ | ⟨-, -, content, h⟩ | ⟨_, s, below, -, -, h⟩
  · exact ht q target (h.symm.trans heq)
  all_goals exact absurd (h.symm.trans heq) (by simp)

/-- **What a disk can hold it can hold after an edit.** -/
theorem Edit.plain (h : Edit outs t t') (ht : t.Plain) : t'.Plain := by
  have key : ∀ {q entries}, t'.at? q = some (.directory entries) →
      (∀ e ∈ entries, Path.IsFileName e.1) ∧ (entries.map (·.1)).Nodup := by
    intro q entries heq
    rcases h.at?_cases q with h | ⟨-, h⟩ | ⟨-, -, content, h⟩ | ⟨old, s, below, hdir, hs, h⟩
    · exact ⟨ht.isFileName (h.symm.trans heq), ht.nodup (h.symm.trans heq)⟩
    · obtain rfl : [] = entries := by simpa using h.symm.trans heq
      exact ⟨by simp, by simp⟩
    · exact absurd (h.symm.trans heq) (by simp)
    · obtain rfl : FileNode.setEntry s below old = entries := by simpa using h.symm.trans heq
      refine ⟨fun e he => ?_, FileNode.nodup_setEntry (ht.nodup hdir)⟩
      rcases FileNode.mem_setEntry he with rfl | he
      · exact hs
      · exact ht.isFileName hdir e he
  exact ⟨h.linkless ht.linkless, fun hdir => (key hdir).1, fun hdir => (key hdir).2⟩

/-! ## Any number of edits -/

/-- Whether a tree comes from another by edits that write files at given places only. -/
def Edits (outs : Set (List String)) : FileTree → FileTree → Prop :=
  Relation.ReflTransGen (Edit outs)

theorem Edits.refl (outs : Set (List String)) (t : FileTree) : Edits outs t t :=
  Relation.ReflTransGen.refl

theorem Edits.trans (h : Edits outs t t') (h' : Edits outs t' u) : Edits outs t u :=
  Relation.ReflTransGen.trans h h'

theorem Edit.edits (h : Edit outs t t') : Edits outs t t' := Relation.ReflTransGen.single h

theorem Edits.mono (h : Edits outs t t') (hsub : outs ⊆ outs') : Edits outs' t t' := by
  induction h with
  | refl => exact .refl outs' t
  | tail _ hedit ih => exact ih.trans (hedit.mono hsub).edits

/-- **Edits take nothing away.** -/
theorem Edits.grows (h : Edits outs t t') : t.Grows t' := by
  induction h with
  | refl => exact .refl t
  | tail _ hedit ih => exact ih.trans hedit.grows

/-- **Edits leave every file at another place.** -/
theorem Edits.fileAt?_eq (h : Edits outs t t') (hq : q ∉ outs) : t'.fileAt? q = t.fileAt? q := by
  induction h with
  | refl => rfl
  | tail _ hedit ih => rw [hedit.fileAt?_eq hq, ih]

theorem Edits.linkless (h : Edits outs t t') (ht : t.Linkless) : t'.Linkless := by
  induction h with
  | refl => exact ht
  | tail _ hedit ih => exact hedit.linkless ih

theorem Edits.plain (h : Edits outs t t') (ht : t.Plain) : t'.Plain := by
  induction h with
  | refl => exact ht
  | tail _ hedit ih => exact hedit.plain ih

end ElementBindings.FileTree
