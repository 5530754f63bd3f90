import ElementBindings.Bundle.Build
import ElementBindings.Proofs.Files.Access

/-!
# Proofs/Bundle/Output — writing declarations

Declarations are written to one file, and writing them again changes nothing
(`DeclarationTarget.write_again`).  Where writing stops, no file has changed, though directories may
have been made (`DeclarationTarget.edits_of_stopped`).
-/

namespace ElementBindings.DeclarationTarget

variable {t t' made : FileTree} {target : DeclarationTarget} {ws : List Wrapper} {path : Path}
  {old : ByteArray} {fault : FileFault}

/-! ## How writing ends -/

/-- Writing gives the path of the file, and the tree it leaves. -/
theorem writeOrStop_eq_ok_iff : target.writeOrStop t ws = .ok (path, t') ↔
    path = target.outputPath ∧ target.write t ws = .ok t' := by
  have hpath {written : Path × FileTree} (h : target.writeOrStop t ws = .ok written) :
      written.1 = target.outputPath := by
    rw [writeOrStop] at h
    split at h
    · exact congrArg Prod.fst (Except.ok.inj h).symm
    · obtain ⟨made, -, h⟩ := Except.bind_eq_ok.1 h
      obtain ⟨after, -, h⟩ := Except.bind_eq_ok.1 h
      exact congrArg Prod.fst (Except.ok.inj h).symm
  rw [write, Except.mapError_eq_ok]
  cases hend : target.writeOrStop t ws with
  | error stopped => exact iff_of_false nofun fun h => nomatch h.2
  | ok written =>
    obtain ⟨own, after⟩ := written
    obtain rfl : own = target.outputPath := hpath hend
    simp [Except.map, eq_comm]

/-- Where writing stops, the tree that it leaves comes with the fault. -/
theorem write_eq_error_iff : target.write t ws = .error fault ↔
    ∃ left, target.writeOrStop t ws = .error ⟨fault, left⟩ := by
  rw [write, Except.mapError_eq_error]
  cases target.writeOrStop t ws with
  | ok written => exact iff_of_false (fun ⟨_, h, _⟩ => nomatch h) fun ⟨_, h⟩ => nomatch h
  | error stopped =>
    constructor
    · rintro ⟨_, h, rfl⟩
      rw [← Except.error.inj h]
      exact ⟨stopped.tree, rfl⟩
    · rintro ⟨left, h⟩
      exact ⟨stopped, rfl, congrArg FileTree.Stopped.fault (Except.error.inj h)⟩

/-- **Writing declarations does nothing if they are there**, and makes their directory and their
file otherwise. -/
theorem write_eq_ok_iff : target.write t ws = .ok t' ↔
    t.readText target.outputPath = .ok (declarationModule target ws) ∧ t' = t ∨
    t.readText target.outputPath ≠ .ok (declarationModule target ws) ∧
      ∃ made, t.makeDirectories target.outDir = .ok made ∧
        made.write target.outputPath (declarationModule target ws).toUTF8 = .ok t' := by
  have hend : target.write t ws = .ok t' ↔
      target.writeOrStop t ws = .ok (target.outputPath, t') := by
    rw [writeOrStop_eq_ok_iff, and_iff_right rfl]
  rw [hend, writeOrStop]
  simp only [Except.toOption_eq_some, ← FileTree.makeDirectoriesOrStop_eq_ok_iff]
  split
  · next hthere => simp [hthere, eq_comm]
  · next hthere =>
    rw [Except.bind_eq_ok]
    simp [hthere, Except.bind_eq_ok, Except.mapError_eq_ok, pure, Except.pure]

theorem write_of_readText (h : t.readText target.outputPath = .ok (declarationModule target ws)) :
    target.write t ws = .ok t := write_eq_ok_iff.2 (Or.inl ⟨h, rfl⟩)

/-- **Where writing stops, nothing but directories has been made.** -/
theorem edits_of_stopped {stopped : FileTree.Stopped}
    (h : target.writeOrStop t ws = .error stopped) (ht : t.Linkless) :
    FileTree.Edits ∅ t stopped.tree := by
  rw [writeOrStop] at h
  split at h
  · exact absurd h (by simp)
  rcases Except.bind_eq_error.1 h with h | ⟨made, hmade, h⟩
  · exact FileTree.edits_of_makeDirectoriesUpTo_error h ht
  rcases Except.bind_eq_error.1 h with h | ⟨after, -, h⟩
  · obtain ⟨fault, -, rfl⟩ := Except.mapError_eq_error.1 h
    exact FileTree.makeDirectories_edits (FileTree.makeDirectoriesOrStop_eq_ok_iff.1 hmade) ht
  · exact absurd h (by simp [pure, Except.pure])

/-! ## What is written -/

/-- **Writing declarations is an edit of their file.** -/
theorem write_edits (h : target.write t ws = .ok t') (ht : t.Linkless) :
    FileTree.Edits {target.outputPath.place} t t' := by
  rcases write_eq_ok_iff.1 h with ⟨-, rfl⟩ | ⟨-, made, hmade, hwrite⟩
  · exact .refl _ _
  · have hedits := FileTree.makeDirectories_edits hmade ht
    exact (hedits.mono (Set.empty_subset _)).trans
      (FileTree.write_edits hwrite (hedits.linkless ht))

/-- **Declarations that have been written are there.** -/
theorem readText_of_write (h : target.write t ws = .ok t') (ht : t.Linkless) :
    t'.readText target.outputPath = .ok (declarationModule target ws) := by
  rcases write_eq_ok_iff.1 h with ⟨hread, rfl⟩ | ⟨-, made, hmade, hwrite⟩
  · exact hread
  · exact FileTree.readText_of_write hwrite ((FileTree.makeDirectories_edits hmade ht).linkless ht)

/-- **Writing declarations a second time changes nothing.** -/
theorem write_again (h : target.write t ws = .ok t') (ht : t.Linkless) :
    target.write t' ws = .ok t' := write_of_readText (readText_of_write h ht)

/-- Where the directories are made, writing declarations puts their file. -/
theorem write_of_makeDirectories (ht : t.Linkless)
    (hmade : t.makeDirectories target.outDir = .ok t)
    (hwrite : t.write target.outputPath (declarationModule target ws).toUTF8 = .ok t') :
    target.write t ws = .ok t' := by
  by_cases hthere : t.readText target.outputPath = .ok (declarationModule target ws)
  · obtain ⟨-, rfl⟩ := (FileTree.write_eq_ok_iff ht).1 hwrite
    have hfile := ((FileTree.readText_eq_ok_iff ht).1 hthere).2
    rw [FileTree.put_eq_self (FileTree.fileAt?_eq_some_iff.1 hfile)]
    exact write_of_readText hthere
  · exact write_eq_ok_iff.2 (Or.inr ⟨hthere, t, hmade, hwrite⟩)

/-- **Declarations that have been written over can be written again.** -/
theorem write_restores (h : target.write t ws = .ok t') (ht : t.Linkless)
    (hold : t.fileAt? target.outputPath.place = some old) :
    target.write (t'.put target.outputPath.place (.file old)) ws = .ok t' := by
  rcases write_eq_ok_iff.1 h with ⟨hread, rfl⟩ | ⟨-, made, hmade, hwrite⟩
  · rw [FileTree.put_eq_self (FileTree.fileAt?_eq_some_iff.1 hold)]
    exact write_of_readText hread
  have hlinkless := (FileTree.makeDirectories_edits hmade ht).linkless ht
  have hedits := FileTree.write_edits hwrite hlinkless
  have hover : t'.write target.outputPath old = _ :=
    FileTree.write_of_grows hwrite (.refl t') hlinkless (hedits.linkless hlinkless)
  have hedits' := FileTree.write_edits hover (hedits.linkless hlinkless)
  have hlinkless' := hedits'.linkless (hedits.linkless hlinkless)
  refine write_of_makeDirectories hlinkless' ?_ ?_
  · exact FileTree.makeDirectories_of_grows hmade (hedits.grows.trans hedits'.grows) ht hlinkless'
  · rw [FileTree.write_of_grows hwrite hedits'.grows hlinkless hlinkless', FileTree.put_put,
      FileTree.put_eq_self (FileTree.fileAt?_eq_some_iff.1
        (FileTree.fileAt?_of_write hwrite hlinkless))]

/-! ## Writing as a whole -/

/-- **When declarations are written**: they are there, or their directory can be made and then their
file can be written. -/
theorem exists_writeOrStop_eq_ok_iff (ht : t.Linkless) :
    (∃ written, target.writeOrStop t ws = .ok written) ↔
      t.readText target.outputPath = .ok (declarationModule target ws) ∨
      ∃ made, t.makeDirectories target.outDir = .ok made ∧ made.Writable target.outputPath := by
  have hwrite : (∃ written, target.writeOrStop t ws = .ok written) ↔
      ∃ t', target.write t ws = .ok t' := by
    simp [Prod.exists, writeOrStop_eq_ok_iff]
  rw [hwrite]
  constructor
  · rintro ⟨t', h⟩
    rcases write_eq_ok_iff.1 h with ⟨hthere, -⟩ | ⟨-, made, hmade, hfile⟩
    · exact Or.inl hthere
    · have hlinkless := (FileTree.makeDirectories_edits hmade ht).linkless ht
      exact Or.inr ⟨made, hmade, ((FileTree.write_eq_ok_iff hlinkless).1 hfile).1⟩
  · rintro (hthere | ⟨made, hmade, hwritable⟩)
    · exact ⟨t, write_of_readText hthere⟩
    · by_cases hthere : t.readText target.outputPath = .ok (declarationModule target ws)
      · exact ⟨t, write_of_readText hthere⟩
      · have hlinkless := (FileTree.makeDirectories_edits hmade ht).linkless ht
        exact ⟨_, write_eq_ok_iff.2 (Or.inr ⟨hthere, made, hmade,
          (FileTree.write_eq_ok_iff hlinkless).2 ⟨hwritable, rfl⟩⟩)⟩

/-- **Writing declarations writes over one file, and nothing else.**  In a tree without links, if a
path is given then it is that of the declaration file, which holds exactly the declarations,
whatever was there before; every other file is as it was, and writing them again ends the same and
leaves the tree as it is.  A path is given unless the declarations are not there and either their
directory cannot be made or their file cannot be written; then writing stops, and no file has
changed. -/
theorem writeOrStop_framed (ht : t.Linkless) (target : DeclarationTarget) (ws : List Wrapper) :
    (∀ path t', target.writeOrStop t ws = .ok (path, t') →
      path = target.outputPath ∧
      t'.fileAt? path.place = some (declarationModule target ws).toUTF8 ∧
      t'.readText path = .ok (declarationModule target ws) ∧
      (∀ place, place ≠ path.place → t'.fileAt? place = t.fileAt? place) ∧
      target.writeOrStop t' ws = .ok (path, t')) ∧
    ((∃ written, target.writeOrStop t ws = .ok written) ↔
      t.readText target.outputPath = .ok (declarationModule target ws) ∨
      ∃ made, t.makeDirectories target.outDir = .ok made ∧ made.Writable target.outputPath) ∧
    ∀ stopped, target.writeOrStop t ws = .error stopped →
      ∀ place, stopped.tree.fileAt? place = t.fileAt? place := by
  refine ⟨?_, exists_writeOrStop_eq_ok_iff ht, ?_⟩
  · intro path t' h
    obtain ⟨rfl, hwrite⟩ := writeOrStop_eq_ok_iff.1 h
    have hedits := write_edits hwrite ht
    have hread := readText_of_write hwrite ht
    exact ⟨rfl, ((FileTree.readText_eq_ok_iff (hedits.linkless ht)).1 hread).2, hread,
      fun place hplace => hedits.fileAt?_eq hplace,
      writeOrStop_eq_ok_iff.2 ⟨rfl, write_again hwrite ht⟩⟩
  · intro stopped h place
    exact (edits_of_stopped h ht).fileAt?_eq (Set.notMem_empty place)

/-- Files of which one stands in the way of a directory, and another one is no text. -/
def staleProject : FileTree :=
  ⟨.directory [("blocker", .file "no directory".toUTF8),
    ("dist", .directory [("index.d.ts", .file ⟨#[0xFF]⟩)])]⟩

/-- Declarations in a directory of it. -/
def distTarget : DeclarationTarget := ⟨⟨"/dist"⟩, ⟨"/src/index.ts"⟩, true⟩

/-- Declarations behind the file that stands in the way. -/
def blockedTarget : DeclarationTarget := ⟨⟨"/blocker/dist"⟩, ⟨"/src/index.ts"⟩, true⟩

theorem linkless_staleProject : staleProject.Linkless :=
  (FileTree.plain_of_isPlain (by decide)).linkless

/-- The text that is none can be written over. -/
theorem exists_write_staleProject (ws : List Wrapper) :
    ∃ t, distTarget.write staleProject ws = .ok t := by
  have ht := linkless_staleProject
  have hdir : staleProject.isDirectory ⟨"/dist"⟩ = true :=
    FileTree.isDirectory_of_locate ht (FileTree.locate_of_names ht (by decide) (by decide)
      (by decide) (by decide)) ⟨_, rfl⟩
  have hplace : distTarget.outputPath.place = ["dist", "index.d.ts"] := by decide
  have hwritable : staleProject.Writable distTarget.outputPath :=
    ⟨by decide,
      ⟨_, FileTree.locate_of_names ht (by decide) (by decide) (by decide) (by decide)⟩,
      FileTree.not_hasDirectory_of_free (Or.inr ⟨⟨#[0xFF]⟩, hplace ▸ rfl⟩)⟩
  exact ⟨_, write_of_makeDirectories ht (FileTree.makeDirectories_of_isDirectory hdir ht)
    ((FileTree.write_eq_ok_iff ht).2 ⟨hwritable, rfl⟩)⟩

/-- One target is written over what is no text, and the other one cannot be written. -/
theorem writeOrStop_framed_staleProject :
    staleProject.Linkless ∧
      (∃ t, distTarget.writeOrStop staleProject [] = .ok (⟨"/dist/index.d.ts"⟩, t) ∧
        t.readText ⟨"/dist/index.d.ts"⟩ = .ok (declarationModule distTarget []) ∧
        t.fileAt? ["blocker"] = some "no directory".toUTF8 ∧
        distTarget.writeOrStop t [] = .ok (⟨"/dist/index.d.ts"⟩, t)) ∧
      ∃ stopped, blockedTarget.writeOrStop staleProject [] = .error stopped ∧
        ∀ place, stopped.tree.fileAt? place = staleProject.fileAt? place := by
  have ht := linkless_staleProject
  have hblocker : staleProject.fileAt? ["blocker"] = some "no directory".toUTF8 := rfl
  refine ⟨ht, ?_, ?_⟩
  · obtain ⟨t, hwrite⟩ := exists_write_staleProject []
    have hend : distTarget.writeOrStop staleProject [] = .ok (⟨"/dist/index.d.ts"⟩, t) :=
      writeOrStop_eq_ok_iff.2 ⟨by decide, hwrite⟩
    obtain ⟨-, -, hread, hframe, hagain⟩ := (writeOrStop_framed ht distTarget []).1 _ t hend
    exact ⟨t, hend, hread, (hframe ["blocker"] (by decide)).trans hblocker, hagain⟩
  · obtain ⟨hok, -, hstopped⟩ := writeOrStop_framed ht blockedTarget []
    cases hend : blockedTarget.writeOrStop staleProject [] with
    | error stopped => exact ⟨stopped, rfl, hstopped stopped hend⟩
    | ok written =>
      -- the file in the way would have to be one still, with the declarations below it
      obtain ⟨hpath, hfile, -, hframe, -⟩ := hok written.1 written.2 hend
      rw [hpath, show blockedTarget.outputPath.place = ["blocker"] ++ ["dist", "index.d.ts"] by
        decide] at hfile hframe
      have hblocker' := (hframe ["blocker"] (by decide)).trans hblocker
      rw [FileTree.fileAt?_eq_some_iff, FileTree.at?_append,
        FileTree.fileAt?_eq_some_iff.1 hblocker'] at hfile
      exact absurd hfile (Option.some_ne_none _).symm

end ElementBindings.DeclarationTarget
