import ElementBindings.Proofs.Except
import ElementBindings.Proofs.Files.Following

/-!
# Proofs/Files/Access — what reading and writing by path do in a tree without links

Reading a path gives the file at its place (`read_eq_ok_iff`); writing to it puts a file there
(`write_eq_ok_iff`), and making directories makes nothing else, even if it stops half-way
(`makeDirectories_edits`, `edits_of_makeDirectoriesUpTo_error`).  All of it can be done again when
the tree has grown since (`write_of_grows`, `makeDirectories_of_grows`).
-/

namespace ElementBindings.FileTree

variable {t t' u : FileTree} {p : Path} {spot : Spot} {node : FileNode} {content new : ByteArray}
  {s : String}

/-! ## Reaching -/

/-- Whether a path leads somewhere, if only to a name that is free. -/
def Reaches (t : FileTree) (p : Path) : Prop := ∃ spot, t.locate p = .ok spot

/-- **A path that says something leads where its names lead.** -/
theorem locate_eq_ok_iff (ht : t.Linkless) :
    t.locate p = .ok spot ↔ '\x00' ∉ p.chars ∧ p.text ≠ "" ∧ t.Leads [] p.names spot := by
  rw [locate]
  split
  · next h => exact iff_of_false (by simp) fun hn => hn.1 h
  split
  · next h => exact iff_of_false (by simp) fun hn => hn.2.1 (String.isEmpty_iff.1 h)
  · next hnul htext =>
    rw [follow_eq_ok_iff ht]
    exact ⟨fun h => ⟨hnul, fun he => htext (String.isEmpty_iff.2 he), h⟩, fun h => h.2.2⟩

/-- **The spot that a path leads to is its place.** -/
theorem place_of_locate (ht : t.Linkless) (h : t.locate p = .ok spot) : spot.place = p.place := by
  rw [((locate_eq_ok_iff ht).1 h).2.2.place_eq p.empty_notMem_names, Path.stepsOf_names,
    ← Path.place_eq_walk_named]

/-- A path that leads to something leads to its place. -/
theorem locate_eq_there_iff (ht : t.Linkless) :
    t.locate p = .ok (.there p.place) ↔ t.Reaches p ∧ (t.at? p.place).isSome = true := by
  constructor
  · intro h
    exact ⟨⟨_, h⟩, ((locate_eq_ok_iff ht).1 h).2.2.isSome_at? rfl⟩
  · rintro ⟨⟨spot, h⟩, hsome⟩
    have hplace := place_of_locate ht h
    cases spot with
    | there q =>
      obtain rfl : q = p.place := hplace
      exact h
    | absent d name =>
      have hnone := ((locate_eq_ok_iff ht).1 h).2.2.of_absent.2
      rw [show d ++ [name] = p.place from hplace] at hnone
      rw [hnone] at hsome
      exact absurd hsome (by simp)

/-- **In a tree that has grown a path leads to what has come to be at its place.** -/
theorem locate_of_grows (h : t.Reaches p) (hgrows : t.Grows t') (ht : t.Linkless)
    (ht' : t'.Linkless) (hsome : (t'.at? p.place).isSome = true) :
    t'.locate p = .ok (.there p.place) := by
  obtain ⟨spot, hspot⟩ := h
  have hplace := place_of_locate ht hspot
  obtain ⟨hnul, htext, hleads⟩ := (locate_eq_ok_iff ht).1 hspot
  rw [← hplace] at hsome ⊢
  exact (locate_eq_ok_iff ht').2 ⟨hnul, htext, hleads.of_grows hgrows ht hsome⟩

/-- A path straight down leads to what is there. -/
theorem locate_of_names (ht : t.Linkless) (hnul : '\x00' ∉ p.chars) (htext : p.text ≠ "")
    (hnames : ∀ s ∈ p.names, s ≠ "." ∧ s ≠ "..") (hsome : (t.at? p.names).isSome = true) :
    t.locate p = .ok (.there p.names) :=
  (locate_eq_ok_iff ht).2 ⟨hnul, htext, Leads.of_isSome_at? hsome hnames⟩

/-! ## Reading -/

/-- **Reading a path gives the content of the file at its place.** -/
theorem read_eq_ok_iff (ht : t.Linkless) :
    t.read p = .ok content ↔ t.Reaches p ∧ t.fileAt? p.place = some content := by
  rw [read, Except.bind_eq_ok, fileAt?_eq_some_iff]
  constructor
  · rintro ⟨spot, hspot, h⟩
    have hplace := place_of_locate ht hspot
    cases spot with
    | absent d name => exact absurd h Except.throw_ne_ok
    | there q =>
      obtain rfl : q = p.place := hplace
      refine ⟨⟨_, hspot⟩, ?_⟩
      dsimp only at h
      split at h
      · next hfile => rw [hfile, Except.ok.inj h]
      · exact absurd h Except.throw_ne_ok
  · rintro ⟨hreaches, hfile⟩
    refine ⟨_, (locate_eq_there_iff ht).2 ⟨hreaches, by rw [hfile]; rfl⟩, ?_⟩
    dsimp only
    rw [hfile]
    rfl

/-- Content is a text if it is how the text is encoded. -/
theorem fromUTF8?_eq_some_iff : String.fromUTF8? content = some s ↔ content = s.toUTF8 := by
  rw [String.fromUTF8?]
  split
  · rw [Option.some.injEq]
    constructor
    · rintro rfl
      rfl
    · rintro rfl
      rfl
  · next h =>
    refine iff_of_false (by simp) ?_
    rintro rfl
    exact h s.isValidUTF8

/-- **The text of a path is what the content at its place encodes.** -/
theorem readText_eq_ok_iff (ht : t.Linkless) :
    t.readText p = .ok s ↔ t.Reaches p ∧ t.fileAt? p.place = some s.toUTF8 := by
  rw [readText, Except.bind_eq_ok, ← read_eq_ok_iff ht]
  constructor
  · rintro ⟨content, hread, h⟩
    split at h
    · next heq =>
      obtain rfl := Except.ok.inj h
      rwa [← fromUTF8?_eq_some_iff.1 heq]
    · exact absurd h Except.throw_ne_ok
  · intro hread
    refine ⟨_, hread, ?_⟩
    rw [fromUTF8?_eq_some_iff.2 rfl]
    rfl

/-- The text of a file can be read by any path that leads to it. -/
theorem readText_of_locate (ht : t.Linkless) {q : List String} (h : t.locate p = .ok (.there q))
    (hfile : t.fileAt? q = some s.toUTF8) : t.readText p = .ok s := by
  obtain rfl : q = p.place := place_of_locate ht h
  exact (readText_eq_ok_iff ht).2 ⟨⟨_, h⟩, hfile⟩

/-- **In a tree that has grown the text at a place can be read** by any path that has led there. -/
theorem readText_of_reaches (h : t.Reaches p) (hgrows : t.Grows t') (ht : t.Linkless)
    (ht' : t'.Linkless) (hfile : t'.fileAt? p.place = some s.toUTF8) : t'.readText p = .ok s := by
  have hsome : (t'.at? p.place).isSome = true := by
    rw [fileAt?_eq_some_iff.1 hfile]
    rfl
  exact readText_of_locate ht' (locate_of_grows h hgrows ht ht' hsome) hfile

/-- **What has been read can be read in a tree that has grown**, if its file is the same. -/
theorem readText_of_grows (h : t.readText p = .ok s) (hgrows : t.Grows t') (ht : t.Linkless)
    (ht' : t'.Linkless) (hfile : t'.fileAt? p.place = t.fileAt? p.place) :
    t'.readText p = .ok s := by
  obtain ⟨hreaches, hcontent⟩ := (readText_eq_ok_iff ht).1 h
  exact readText_of_reaches hreaches hgrows ht ht' (hfile.trans hcontent)

/-! ## Writing -/

/-- Whether a file can be written by a path: it names no directory, and leads to none. -/
structure Writable (t : FileTree) (p : Path) : Prop where
  endsWithSlash : p.endsWithSlash = false
  reaches : t.Reaches p
  not_hasDirectory : ¬t.HasDirectory p.place

/-- Writing puts a file where a path leads, unless a directory is there. -/
theorem write_eq_ok_iff_of_locate (ht : t.Linkless) (hslash : p.endsWithSlash = false)
    (h : t.locate p = .ok spot) : t.write p content = .ok t' ↔
      ¬t.HasDirectory p.place ∧ t' = t.put p.place (.file content) := by
  have hleads := ((locate_eq_ok_iff ht).1 h).2.2
  rw [← place_of_locate ht h, write, Path.dropSlashes_eq_self hslash, h, hslash]
  cases spot with
  | absent d name =>
    have hfree := not_hasDirectory_of_free (Or.inl hleads.of_absent.2)
    exact ⟨fun h => ⟨hfree, (Except.ok.inj h).symm⟩, fun h => congrArg Except.ok h.2.symm⟩
  | there q =>
    simp only [bind, Except.bind, Bool.false_eq_true, if_false, Spot.place]
    rcases ht.cases q with hnone | ⟨entries, hdir⟩ | ⟨old, hfile⟩
    · exact absurd (hleads.isSome_at? rfl) (by simp [hnone])
    · rw [hdir]
      exact iff_of_false Except.throw_ne_ok fun h => h.1 ⟨entries, hdir⟩
    · have hfree := not_hasDirectory_of_free (Or.inr ⟨old, hfile⟩)
      rw [hfile]
      exact ⟨fun h => ⟨hfree, (Except.ok.inj h).symm⟩, fun h => congrArg Except.ok h.2.symm⟩

/-- By a path that ends with a slash nothing is written. -/
theorem endsWithSlash_of_write (h : t.write p content = .ok t') : p.endsWithSlash = false := by
  rw [write, Except.bind_eq_ok] at h
  obtain ⟨spot, -, h⟩ := h
  by_contra hslash
  rw [Bool.not_eq_false] at hslash
  rw [hslash] at h
  cases spot <;> exact absurd h fun h => nomatch h

/-- **Writing puts a file at the place of the path.** -/
theorem write_eq_ok_iff (ht : t.Linkless) :
    t.write p content = .ok t' ↔ t.Writable p ∧ t' = t.put p.place (.file content) := by
  constructor
  · intro h
    have hslash := endsWithSlash_of_write h
    obtain ⟨spot, hspot⟩ : t.Reaches p := by
      have h := h
      rw [write, Except.bind_eq_ok, Path.dropSlashes_eq_self hslash] at h
      exact h.imp fun _ => And.left
    obtain ⟨hfree, hput⟩ := (write_eq_ok_iff_of_locate ht hslash hspot).1 h
    exact ⟨⟨hslash, ⟨spot, hspot⟩, hfree⟩, hput⟩
  · rintro ⟨⟨hslash, ⟨spot, hspot⟩, hfree⟩, hput⟩
    exact (write_eq_ok_iff_of_locate ht hslash hspot).2 ⟨hfree, hput⟩

/-- A free name in a directory can be written by the path straight down to it. -/
theorem writable_of_names (ht : t.Linkless) (hnul : '\x00' ∉ p.chars)
    (hslash : p.endsWithSlash = false) {d : List String} {name : String}
    (hp : p.names = d ++ [name]) (hnames : ∀ s ∈ d ++ [name], s ≠ "." ∧ s ≠ "..")
    (hdir : t.HasDirectory d) (hnone : t.at? (d ++ [name]) = none) : t.Writable p := by
  have htext : p.text ≠ "" := fun htext => by
    obtain rfl : p = ⟨""⟩ := congrArg Path.mk htext
    exact absurd hp (by simp [Path.names, Path.pieces, Path.chars])
  have hd : t.Leads [] d (.there d) := by
    obtain ⟨entries, hdir⟩ := hdir
    exact Leads.of_isSome_at? (by rw [List.nil_append, hdir]; rfl)
      fun s hs => hnames s (by simp [hs])
  obtain ⟨hdot, hdots⟩ := hnames name (by simp)
  have hlocate : t.locate p = .ok (.absent d name) :=
    (locate_eq_ok_iff ht).2 ⟨hnul, htext, hp ▸ hd.append (.absent hdir hdot hdots hnone)⟩
  refine ⟨hslash, ⟨_, hlocate⟩, ?_⟩
  rw [← place_of_locate ht hlocate]
  exact not_hasDirectory_of_free (Or.inl hnone)

/-- **What can be written can be written again in a tree that has grown**, once a file is there. -/
theorem Writable.of_grows (h : t.Writable p) (hgrows : t.Grows t') (ht : t.Linkless)
    (ht' : t'.Linkless) (hfile : (t'.fileAt? p.place).isSome = true) : t'.Writable p := by
  obtain ⟨content, hfile⟩ := Option.isSome_iff_exists.1 hfile
  rw [fileAt?_eq_some_iff] at hfile
  exact ⟨h.endsWithSlash, ⟨_, locate_of_grows h.reaches hgrows ht ht' (by rw [hfile]; rfl)⟩,
    not_hasDirectory_of_free (Or.inr ⟨content, hfile⟩)⟩

/-- A place that a file can be written at fits a directory. -/
theorem Writable.exists_fits (h : t.Writable p) (ht : t.Linkless) :
    ∃ d name, p.place = d ++ [name] ∧ t.Fits d name := by
  obtain ⟨spot, hspot⟩ := h.reaches
  have hplace := place_of_locate ht hspot
  obtain ⟨-, htext, hleads⟩ := (locate_eq_ok_iff ht).1 hspot
  have hnames := Path.isFileName_of_mem_place p
  cases spot with
  | absent d name =>
    rw [← hplace] at hnames ⊢
    exact ⟨d, name, rfl, hnames, hleads.of_absent.1⟩
  | there q =>
    obtain rfl : q = p.place := hplace
    rcases List.eq_nil_or_concat' p.place with hroot | ⟨d, name, hconcat⟩
    · -- the root is a directory, because the path has a name to look up in it
      obtain ⟨s, names, hcons⟩ := List.exists_cons_of_ne_nil (Path.names_ne_nil htext)
      have hdir : t.HasDirectory [] := by
        rw [hcons] at hleads
        cases hleads <;> assumption
      exact absurd (hroot ▸ hdir) h.not_hasDirectory
    · rw [hconcat] at hnames hleads ⊢
      exact ⟨d, name, rfl, hnames, hasDirectory_of_isSome_at? (hleads.isSome_at? rfl)⟩

/-- **Writing is an edit of the place of the path.** -/
theorem write_edits (h : t.write p content = .ok t') (ht : t.Linkless) : Edits {p.place} t t' := by
  obtain ⟨hwritable, rfl⟩ := (write_eq_ok_iff ht).1 h
  obtain ⟨d, name, hplace, hfits⟩ := hwritable.exists_fits ht
  have hfree := hwritable.not_hasDirectory
  rw [hplace] at hfree ⊢
  exact (Edit.file hfits (ht.free_of_not_hasDirectory hfree) (Set.mem_singleton _)).edits

/-- What has been written is there. -/
theorem fileAt?_of_write (h : t.write p content = .ok t') (ht : t.Linkless) :
    t'.fileAt? p.place = some content := by
  obtain ⟨hwritable, rfl⟩ := (write_eq_ok_iff ht).1 h
  obtain ⟨d, name, hplace, hfits⟩ := hwritable.exists_fits ht
  obtain ⟨entries, hdir⟩ := hfits.hasDirectory
  rw [hplace, fileAt?_eq_some_iff]
  exact FileNode.at?_put_append hdir name (.file content) []

/-- A text that has been written can be read. -/
theorem readText_of_write (h : t.write p s.toUTF8 = .ok t') (ht : t.Linkless) :
    t'.readText p = .ok s := by
  have hreaches := ((write_eq_ok_iff ht).1 h).1.reaches
  have hedits := write_edits h ht
  exact readText_of_reaches hreaches hedits.grows ht (hedits.linkless ht) (fileAt?_of_write h ht)

/-- **A file that has been written can be written again** in a tree that has grown since. -/
theorem write_of_grows (h : t.write p content = .ok t') (hgrows : t'.Grows u) (ht : t.Linkless)
    (hu : u.Linkless) : u.write p new = .ok (u.put p.place (.file new)) := by
  have hfile := hgrows.isSome_fileAt? (by rw [fileAt?_of_write h ht]; rfl)
  have hwritable := ((write_eq_ok_iff ht).1 h).1
  refine (write_eq_ok_iff hu).2 ⟨?_, rfl⟩
  exact hwritable.of_grows ((write_edits h ht).grows.trans hgrows) ht hu hfile

/-! ## Making directories -/

/-- **A path leads to a directory** if there is one at its place. -/
theorem isDirectory_iff (ht : t.Linkless) :
    t.isDirectory p = true ↔ t.Reaches p ∧ t.HasDirectory p.place := by
  rw [isDirectory, node?]
  constructor
  · intro h
    split at h
    · next q hq =>
      obtain rfl : q = p.place := place_of_locate ht hq
      refine ⟨⟨_, hq⟩, ?_⟩
      rcases ht.cases p.place with hnone | hdir | ⟨content, hfile⟩
      · rw [hnone] at h
        exact absurd h (by simp)
      · exact hdir
      · rw [hfile] at h
        exact absurd h (by simp [FileNode.isDirectory])
    · exact absurd h (by simp)
  · rintro ⟨hreaches, entries, hdir⟩
    rw [(locate_eq_there_iff ht).2 ⟨hreaches, by rw [hdir]; rfl⟩]
    dsimp only
    rw [hdir]
    rfl

theorem isDirectory_of_locate (ht : t.Linkless) {q : List String}
    (h : t.locate p = .ok (.there q)) (hdir : t.HasDirectory q) : t.isDirectory p = true := by
  obtain rfl : q = p.place := place_of_locate ht h
  exact (isDirectory_iff ht).2 ⟨⟨_, h⟩, hdir⟩

/-- A directory stays one in a tree that has grown. -/
theorem isDirectory_of_grows (h : t.isDirectory p = true) (hgrows : t.Grows t') (ht : t.Linkless)
    (ht' : t'.Linkless) : t'.isDirectory p = true := by
  obtain ⟨hreaches, hdir⟩ := (isDirectory_iff ht).1 h
  obtain ⟨entries, hdir⟩ := hgrows.hasDirectory hdir
  have hlocate := locate_of_grows hreaches hgrows ht ht' (by rw [hdir]; rfl)
  exact isDirectory_of_locate ht' hlocate ⟨entries, hdir⟩

/-- **A node is made under a name that is free.** -/
theorem make_eq_ok (h : t.make p node = .ok t') (ht : t.Linkless) :
    '\x00' ∉ p.chars ∧ ∃ d name, t.Leads [] p.dropSlashes.names (.absent d name) ∧
      t' = t.put (d ++ [name]) node := by
  rw [make] at h
  split at h
  · exact absurd h Except.throw_ne_ok
  next hnul =>
  refine ⟨hnul, ?_⟩
  simp only at h
  split at h
  · exact absurd h Except.throw_ne_ok
  next name hlast =>
  obtain ⟨init, hnames⟩ := List.getLast?_eq_some_iff.1 hlast
  rw [hnames, List.dropLast_concat, Except.bind_eq_ok] at h
  obtain ⟨spot, hspot, h⟩ := h
  obtain ⟨d, hinit, hd⟩ := ((follow_eq_ok_iff ht).1 hspot).of_append (by simp)
  obtain ⟨rfl, hdir⟩ := hd.of_current
  simp only at h
  split at h
  · exact absurd h Except.throw_ne_ok
  next hdots =>
  split at h
  · exact absurd h Except.throw_ne_ok
  next hnone =>
  rw [not_or] at hdots
  rw [Option.not_isSome_iff_eq_none] at hnone
  rw [hnames]
  exact ⟨d, name, hinit.append (.absent hdir hdots.1 hdots.2 hnone), (Except.ok.inj h).symm⟩

/-- A free name that a path leads to is the place of the path. -/
theorem fits_of_leads_absent {d : List String} {name : String}
    (h : t.Leads [] p.dropSlashes.names (.absent d name)) :
    d ++ [name] = p.place ∧ t.Fits d name ∧ t.at? (d ++ [name]) = none := by
  obtain ⟨hdir, hnone⟩ := h.of_absent
  have hplace : d ++ [name] = p.place := by
    rw [Path.place_eq_walk_named, ← Path.named_dropSlashes, ← Path.stepsOf_names]
    exact h.place_eq p.dropSlashes.empty_notMem_names
  exact ⟨hplace, ⟨hplace ▸ Path.isFileName_of_mem_place p, hdir⟩, hnone⟩

/-- **Making a directory is an edit of a place where nothing is.** -/
theorem makeDirectory_eq_ok (h : t.makeDirectory p = .ok t') (ht : t.Linkless) :
    t.at? p.place = none ∧ Edits ∅ t t' ∧ t'.isDirectory p = true := by
  obtain ⟨hnul, d, name, hleads, rfl⟩ := make_eq_ok h ht
  obtain ⟨hplace, hfits, hnone⟩ := fits_of_leads_absent hleads
  have hdir := hfits.hasDirectory
  have hedit : Edit ∅ t (t.put (d ++ [name]) (.directory [])) := .directory hfits hnone
  have hlinkless := hedit.linkless ht
  have hmade : (t.put (d ++ [name]) (.directory [])).HasDirectory (d ++ [name]) := by
    obtain ⟨entries, hdir⟩ := hdir
    exact ⟨[], FileNode.at?_put_append hdir name (.directory []) []⟩
  have hsome : ((t.put (d ++ [name]) (.directory [])).at? (d ++ [name])).isSome = true := by
    obtain ⟨entries, hmade⟩ := hmade
    rw [hmade]
    rfl
  have hthere := hleads.of_grows hedit.grows ht hsome
  generalize t.put (d ++ [name]) (.directory []) = t' at *
  refine ⟨hplace ▸ hnone, hedit.edits, (isDirectory_iff hlinkless).2 ⟨⟨.there (d ++ [name]), ?_⟩,
    hplace ▸ hmade⟩⟩
  refine (locate_eq_ok_iff hlinkless).2 ⟨hnul, fun htext => ?_, ?_⟩
  · obtain rfl : p = ⟨""⟩ := congrArg Path.mk htext
    exact nomatch (show t.Leads [] [] (.absent d name) from hleads)
  · rw [Path.names_eq_append]
    split
    · exact hthere.append (.current hmade .nil)
    · rwa [List.append_nil]

/-- Ensuring a directory makes it, or finds it. -/
theorem ensureDirectory_eq_ok (h : t.ensureDirectory p = .ok t') (ht : t.Linkless) :
    Edits ∅ t t' ∧ t'.isDirectory p = true := by
  rw [ensureDirectory] at h
  split at h
  · next made hmade =>
    obtain rfl := Except.ok.inj h
    exact (makeDirectory_eq_ok hmade ht).2
  · split at h
    · next hdir =>
      obtain rfl := Except.ok.inj h
      exact ⟨.refl ∅ t, hdir⟩
    · exact absurd h (by simp)

theorem ensureDirectory_of_isDirectory (h : t.isDirectory p = true) (ht : t.Linkless) :
    t.ensureDirectory p = .ok t := by
  rw [ensureDirectory]
  split
  · next made hmade =>
    obtain ⟨-, entries, hdir⟩ := (isDirectory_iff ht).1 h
    exact absurd ((makeDirectory_eq_ok hmade ht).1.symm.trans hdir) (by simp)
  · exact if_pos h

theorem makeDirectoriesUpTo_eq_ok {fuel : ℕ} (h : t.makeDirectoriesUpTo fuel p = .ok t')
    (ht : t.Linkless) : Edits ∅ t t' ∧ (p.text = "" ∨ t'.isDirectory p = true) := by
  induction fuel generalizing t' p with
  | zero => exact absurd h (by simp [makeDirectoriesUpTo])
  | succ fuel ih =>
    rw [makeDirectoriesUpTo] at h
    split at h
    · next hempty =>
      obtain rfl := Except.ok.inj h
      exact ⟨.refl ∅ t, Or.inl (String.isEmpty_iff.1 hempty)⟩
    split at h
    · next outer _ _ =>
      obtain ⟨around, haround, h⟩ := Except.bind_eq_ok.1 h
      have hedits := (ih haround).1
      obtain ⟨hmade, hdir⟩ := ensureDirectory_eq_ok (Except.mapError_eq_ok.1 h) (hedits.linkless ht)
      exact ⟨hedits.trans hmade, Or.inr hdir⟩
    · obtain ⟨hmade, hdir⟩ := ensureDirectory_eq_ok (Except.mapError_eq_ok.1 h) ht
      exact ⟨hmade, Or.inr hdir⟩

/-- Where making directories stops, some of them have been made and nothing else. -/
theorem edits_of_makeDirectoriesUpTo_error {fuel : ℕ} {stopped : Stopped}
    (h : t.makeDirectoriesUpTo fuel p = .error stopped) (ht : t.Linkless) :
    Edits ∅ t stopped.tree := by
  induction fuel generalizing p with
  | zero =>
    rw [← Except.error.inj h]
    exact .refl ∅ t
  | succ fuel ih =>
    rw [makeDirectoriesUpTo] at h
    split at h
    · exact absurd h (by simp)
    split at h
    · rcases Except.bind_eq_error.1 h with h | ⟨around, haround, h⟩
      · exact ih h
      · obtain ⟨fault, -, rfl⟩ := Except.mapError_eq_error.1 h
        exact (makeDirectoriesUpTo_eq_ok haround ht).1
    · obtain ⟨fault, -, rfl⟩ := Except.mapError_eq_error.1 h
      exact .refl ∅ t

theorem makeDirectoriesOrStop_eq_ok_iff :
    t.makeDirectoriesOrStop p = .ok t' ↔ t.makeDirectories p = .ok t' :=
  Except.mapError_eq_ok.symm

/-- **Making directories changes no file.** -/
theorem makeDirectories_edits (h : t.makeDirectories p = .ok t') (ht : t.Linkless) :
    Edits ∅ t t' := (makeDirectoriesUpTo_eq_ok (makeDirectoriesOrStop_eq_ok_iff.2 h) ht).1

/-- Where a directory is, none has to be made. -/
theorem makeDirectories_of_isDirectory (h : t.isDirectory p = true) (ht : t.Linkless) :
    t.makeDirectories p = .ok t := by
  rw [← makeDirectoriesOrStop_eq_ok_iff, makeDirectoriesOrStop, makeDirectoriesUpTo]
  split
  · rfl
  · rw [ensureDirectory_of_isDirectory h ht]
    rfl

/-- **Directories that have been made need not be made again**, in a tree that has grown since. -/
theorem makeDirectories_of_grows (h : t.makeDirectories p = .ok t') (hgrows : t'.Grows u)
    (ht : t.Linkless) (hu : u.Linkless) : u.makeDirectories p = .ok u := by
  obtain ⟨hedits, htext | hdir⟩ :=
    makeDirectoriesUpTo_eq_ok (makeDirectoriesOrStop_eq_ok_iff.2 h) ht
  · rw [← makeDirectoriesOrStop_eq_ok_iff, makeDirectoriesOrStop, makeDirectoriesUpTo,
      if_pos (String.isEmpty_iff.2 htext)]
  · exact makeDirectories_of_isDirectory
      (isDirectory_of_grows hdir hgrows (hedits.linkless ht) hu) hu

end ElementBindings.FileTree
