import ElementBindings.CommandLine.Program
import ElementBindings.Proofs.Bundle.Rebuild
import ElementBindings.Proofs.Config.Accepted

/-!
# Proofs/CommandLine/Generate — what building a project touches

A build generates the wrapper module before it writes anything, writes the module where it is asked
for, and then the declarations of the same wrappers.  Whatever becomes of it, no file but those two
changes (`generate_edits`), and where it stops before its first file, none does.
-/

namespace ElementBindings.CommandLine

variable {here config path : Path} {t t' u made : FileTree} {c : Config} {m : GeneratedModule}
  {wrapper : Option Path} {text s : String} {f : Failure} {place : List String}

/-! ## The directory of a file -/

theorem makeDirectoryOf_edits (h : makeDirectoryOf here t path = .ok t') (ht : t.Linkless) :
    FileTree.Edits ∅ t t' := by
  rw [makeDirectoryOf] at h
  split at h
  · exact Except.ok.inj h ▸ .refl ∅ t
  split at h
  · exact Except.ok.inj h ▸ .refl ∅ t
  · have hmade := FileTree.makeDirectoriesOrStop_eq_ok_iff.1 (Except.mapError_eq_ok.1 h)
    exact FileTree.makeDirectories_edits hmade ht

/-- A failure to make the directory of a file changes no file. -/
theorem edits_of_makeDirectoryOf_error (h : makeDirectoryOf here t path = .error (f, t'))
    (ht : t.Linkless) : FileTree.Edits ∅ t t' := by
  rw [makeDirectoryOf] at h
  split at h
  · exact absurd h (by simp)
  split at h
  · exact absurd h (by simp)
  · obtain ⟨stopped, hstopped, heq⟩ := Except.mapError_eq_error.1 h
    obtain ⟨-, rfl⟩ := Prod.mk.inj heq
    exact FileTree.edits_of_makeDirectoriesUpTo_error hstopped ht

/-- The directory of a file need not be made again. -/
theorem makeDirectoryOf_of_grows (h : makeDirectoryOf here t path = .ok t') (hgrows : t'.Grows u)
    (ht : t.Linkless) (hu : u.Linkless) : makeDirectoryOf here u path = .ok u := by
  rw [makeDirectoryOf] at h ⊢
  split
  · rfl
  · next directory hparent =>
    rw [hparent] at h
    split
    · rfl
    · next hempty =>
      dsimp only at h
      rw [if_neg hempty] at h
      have hmade := FileTree.makeDirectoriesOrStop_eq_ok_iff.1 (Except.mapError_eq_ok.1 h)
      exact Except.mapError_eq_ok.2 (FileTree.makeDirectoriesOrStop_eq_ok_iff.2
        (FileTree.makeDirectories_of_grows hmade hgrows ht hu))

/-! ## The wrapper file -/

/-- Writes a wrapper module if there is a file for it. -/
def writeRequested (here : Path) (t : FileTree) (wrapper : Option Path) (text : String) : Outcome :=
  match wrapper with
  | some path => writeModule here t path text
  | none => ⟨.ok "", t⟩

theorem writeRequested_some (here : Path) (t : FileTree) (path : Path) (text : String) :
    writeRequested here t (some path) text = writeModule here t path text := rfl

/-- The places of the wrapper file, if there is one. -/
def wrapperPlaces (here : Path) (wrapper : Option Path) : Set (List String) :=
  {place | ∃ path ∈ wrapper, place = (here.join path).place}

/-- **A wrapper file is written in its directory**, or nothing but directories is. -/
theorem writeModule_cases (here : Path) (path : Path) (text : String) (ht : t.Linkless) :
    (∃ f t', writeModule here t path text = ⟨.error f, t'⟩ ∧ FileTree.Edits ∅ t t') ∨
    ∃ made t', makeDirectoryOf here t path = .ok made ∧
      made.write (here.join path) text.toUTF8 = .ok t' ∧
      writeModule here t path text = ⟨.ok "", t'⟩ := by
  rw [writeModule]
  cases hmade : makeDirectoryOf here t path with
  | error failed => exact Or.inl ⟨failed.1, failed.2, rfl, edits_of_makeDirectoryOf_error hmade ht⟩
  | ok made =>
    dsimp only
    cases hwrite : made.write (here.join path) text.toUTF8 with
    | error fault => exact Or.inl ⟨_, made, rfl, makeDirectoryOf_edits hmade ht⟩
    | ok t' => exact Or.inr ⟨made, t', rfl, hwrite, rfl⟩

/-- **What is written on request**: nothing but directories if it fails, and the text to the file
otherwise. -/
theorem writeRequested_cases (here : Path) (wrapper : Option Path) (text : String)
    (ht : t.Linkless) :
    (∃ f t', writeRequested here t wrapper text = ⟨.error f, t'⟩ ∧ FileTree.Edits ∅ t t') ∨
    ∃ t', writeRequested here t wrapper text = ⟨.ok "", t'⟩ ∧
      FileTree.Edits (wrapperPlaces here wrapper) t t' ∧
      ∀ path ∈ wrapper, t'.readText (here.join path) = .ok text := by
  cases wrapper with
  | none => exact Or.inr ⟨t, rfl, .refl _ t, by simp⟩
  | some path =>
    rcases writeModule_cases here path text ht with h | ⟨made, t', hmade, hwrite, h⟩
    · exact Or.inl h
    · have hedits := makeDirectoryOf_edits hmade ht
      have hlinkless := hedits.linkless ht
      refine Or.inr ⟨t', h, (hedits.mono (Set.empty_subset _)).trans ?_, ?_⟩
      · refine (FileTree.write_edits hwrite hlinkless).mono ?_
        rintro _ rfl
        exact ⟨path, rfl, rfl⟩
      · intro q hq
        obtain rfl := Option.mem_some_iff.1 hq
        exact FileTree.readText_of_write hwrite hlinkless

/-! ## One build -/

/-- The places that a build writes files at. -/
def outputs (here : Path) (c : Config) (wrapper : Option Path) : Set (List String) :=
  wrapperPlaces here wrapper ∪ {c.declarationTarget.outputPath.place}

theorem mem_outputs_iff : place ∈ outputs here c wrapper ↔
    (∃ path ∈ wrapper, place = (here.join path).place) ∨
      place = c.declarationTarget.outputPath.place := Iff.rfl

/-- **A build that generates nothing writes nothing.** -/
theorem generate_of_error {e : BuildError} (h : c.generate t = .error e) (here : Path)
    (wrapper : Option Path) :
    generate here t c wrapper = ⟨.error (.ofBuild "Failed to generate wrappers" e), t⟩ := by
  have hload : c.load t resolvedVirtualModuleId .empty = (.error e, .empty) := by
    rw [Config.load, if_pos rfl, h]
  unfold generate
  simp only [hload]

/-- A build writes the module it generates, and closes with it. -/
theorem generate_of_ok (h : c.generate t = .ok m) (here : Path) (wrapper : Option Path) :
    generate here t c wrapper =
      match writeRequested here t wrapper m.text with
      | ⟨.error f, t⟩ => ⟨.error f, t⟩
      | ⟨.ok _, t⟩ =>
        match c.declarationTarget.writeOrStop t m.wrappers with
        | .ok (_, t) => ⟨.ok "", t⟩
        | .error stopped => ⟨.error (.ofBuild "Failed to write declarations"
            (.unwritable c.declarationTarget.outputPath stopped.fault)), stopped.tree⟩ := by
  have hload : c.load t resolvedVirtualModuleId .empty = (.ok (some m.text), ⟨some m⟩) := by
    rw [Config.load, if_pos rfl, h]
    rfl
  have hclose : ∀ t', c.close t' ⟨some m⟩ =
      match c.declarationTarget.writeOrStop t' m.wrappers with
      | .ok (path, t) => (.ok (some path), .empty, t)
      | .error stopped =>
        (.error (.unwritable c.declarationTarget.outputPath stopped.fault), .empty,
          stopped.tree) := by
    intro t'
    unfold Config.close BuildContext.take
    cases hwrite : c.declarationTarget.writeOrStop t' m.wrappers <;> simp only [hwrite]
  unfold generate writeRequested
  simp only [hload, hclose]
  cases wrapper with
  | none => cases hwrite : c.declarationTarget.writeOrStop t m.wrappers <;> simp only [hwrite]
  | some path =>
    dsimp only
    generalize writeModule here t path m.text = written
    obtain ⟨_ | _, t'⟩ := written
    · rfl
    · cases hwrite : c.declarationTarget.writeOrStop t' m.wrappers <;> simp only [hwrite]

/-- **How a build ends that generates a module**: before the wrapper file, with nothing but
directories made, between the two files, or with both of them. -/
theorem generate_cases (h : c.generate t = .ok m) (here : Path) (wrapper : Option Path)
    (ht : t.Linkless) :
    (∃ f t', (writeRequested here t wrapper m.text).result = .error f ∧
      generate here t c wrapper = ⟨.error f, t'⟩ ∧ FileTree.Edits ∅ t t') ∨
    (∃ f t' t'', writeRequested here t wrapper m.text = ⟨.ok "", t'⟩ ∧
      generate here t c wrapper = ⟨.error f, t''⟩ ∧
      FileTree.Edits (wrapperPlaces here wrapper) t t'') ∨
    ∃ t' t'', writeRequested here t wrapper m.text = ⟨.ok "", t'⟩ ∧
      c.declarationTarget.write t' m.wrappers = .ok t'' ∧
      generate here t c wrapper = ⟨.ok "", t''⟩ ∧
      FileTree.Edits (wrapperPlaces here wrapper) t t' ∧
      ∀ path ∈ wrapper, t'.readText (here.join path) = .ok m.text := by
  have hgenerate := generate_of_ok h here wrapper
  rcases writeRequested_cases here wrapper m.text ht with
    ⟨f, t', hwritten, hedits⟩ | ⟨t', hwritten, hedits, hread⟩
  · rw [hwritten] at hgenerate
    exact Or.inl ⟨f, t', by rw [hwritten], hgenerate, hedits⟩
  · rw [hwritten] at hgenerate
    cases hdeclared : c.declarationTarget.writeOrStop t' m.wrappers with
    | error stopped =>
      simp only [hdeclared] at hgenerate
      have hstopped := DeclarationTarget.edits_of_stopped hdeclared (hedits.linkless ht)
      exact Or.inr (Or.inl ⟨_, t', stopped.tree, hwritten, hgenerate,
        hedits.trans (hstopped.mono (Set.empty_subset _))⟩)
    | ok written =>
      simp only [hdeclared] at hgenerate
      exact Or.inr (Or.inr ⟨t', written.2, hwritten,
        (DeclarationTarget.writeOrStop_eq_ok_iff.1 hdeclared).2, hgenerate, hedits, hread⟩)

/-- **A build edits nothing but its files.** -/
theorem generate_edits (here : Path) (c : Config) (wrapper : Option Path) (ht : t.Linkless) :
    FileTree.Edits (outputs here c wrapper) t (generate here t c wrapper).tree := by
  have hwrapper : wrapperPlaces here wrapper ⊆ outputs here c wrapper := Set.subset_union_left
  cases h : c.generate t with
  | error e =>
    rw [generate_of_error h]
    exact .refl _ t
  | ok m =>
    rcases generate_cases h here wrapper ht with
      ⟨f, t', -, hgenerate, hedits⟩ | ⟨f, -, t', -, hgenerate, hedits⟩ |
      ⟨t', t'', -, hdeclared, hgenerate, hedits, -⟩
    · rw [hgenerate]
      exact hedits.mono (Set.empty_subset _)
    · rw [hgenerate]
      exact hedits.mono hwrapper
    · rw [hgenerate]
      exact (hedits.mono hwrapper).trans ((DeclarationTarget.write_edits hdeclared
        (hedits.linkless ht)).mono Set.subset_union_right)

/-- **A build that succeeds has written one list of wrappers twice**: as the wrapper module, if that
is asked for, and as the declarations. -/
theorem generate_eq_ok (h : (generate here t c wrapper).result = .ok s) (ht : t.Linkless) :
    ∃ m t' t'', generate here t c wrapper = ⟨.ok "", t''⟩ ∧ c.generate t = .ok m ∧
      writeRequested here t wrapper m.text = ⟨.ok "", t'⟩ ∧
      c.declarationTarget.write t' m.wrappers = .ok t'' ∧
      FileTree.Edits (wrapperPlaces here wrapper) t t' ∧
      ∀ path ∈ wrapper, t'.readText (here.join path) = .ok m.text := by
  cases hgen : c.generate t with
  | error e =>
    rw [generate_of_error hgen] at h
    exact absurd h (by simp)
  | ok m =>
    rcases generate_cases hgen here wrapper ht with
      ⟨f, t', -, hgenerate, -⟩ | ⟨f, -, t', -, hgenerate, -⟩ |
      ⟨t', t'', hwritten, hdeclared, hgenerate, hedits, hread⟩
    · rw [hgenerate] at h
      exact absurd h (by simp)
    · rw [hgenerate] at h
      exact absurd h (by simp)
    · exact ⟨m, t', t'', hgenerate, rfl, hwritten, hdeclared, hedits, hread⟩

/-- **A build whose wrapper file cannot be written changes no file.** -/
theorem generate_of_writeModule_error (hm : c.generate t = .ok m)
    (hf : (writeModule here t path m.text).result = .error f) (ht : t.Linkless) :
    (generate here t c (some path)).result = .error f ∧
      ∀ place, (generate here t c (some path)).tree.fileAt? place = t.fileAt? place := by
  rw [← writeRequested_some] at hf
  rcases generate_cases hm here (some path) ht with
    ⟨f', t', hf', hgenerate, hedits⟩ | ⟨f', t', -, hwritten, -⟩ | ⟨t', t'', hwritten, -⟩
  · obtain rfl := Except.error.inj (hf'.symm.trans hf)
    rw [hgenerate]
    exact ⟨rfl, fun place => hedits.fileAt?_eq (Set.notMem_empty place)⟩
  · rw [hwritten] at hf
    exact absurd hf (by simp)
  · rw [hwritten] at hf
    exact absurd hf (by simp)

/-- **What a build that succeeds has written**: the module and the declarations of the wrappers
that are derived from the elements of the sources. -/
theorem readText_generate (h : (generate here t c wrapper).result = .ok s) (ht : t.Linkless)
    (hne : ∀ path ∈ wrapper, (here.join path).place ≠ c.declarationTarget.outputPath.place) :
    ∃ manifest ws, c.manifest t = .ok manifest ∧ c.wrapRules.wrappers manifest = .ok ws ∧
      (∀ path ∈ wrapper,
        (generate here t c wrapper).tree.readText (here.join path) = .ok (wrapperModule ws)) ∧
      (generate here t c wrapper).tree.readText c.declarationTarget.outputPath
        = .ok (declarationModule c.declarationTarget ws) := by
  obtain ⟨m, t', t'', hgenerate, hm, -, hdeclared, hedits, hread⟩ := generate_eq_ok h ht
  rw [hgenerate]
  obtain ⟨manifest, hmanifest, hws, htext⟩ := Config.generate_eq_ok_iff.1 hm
  have ht' := hedits.linkless ht
  have hedits' := DeclarationTarget.write_edits hdeclared ht'
  refine ⟨manifest, m.wrappers, hmanifest, hws, fun path hpath => ?_,
    DeclarationTarget.readText_of_write hdeclared ht'⟩
  rw [← htext]
  exact FileTree.readText_of_grows (hread path hpath) hedits'.grows ht' (hedits'.linkless ht')
    (hedits'.fileAt?_eq (hne path hpath))

/-! ## The command -/

/-- A configuration is loaded from the options that the text of the project file states. -/
theorem loadConfig_eq_ok_iff : loadConfig here t config = .ok c ↔
    ∃ content options, t.readText (here.join config) = .ok content ∧
      Options.ofProjectFile content = some options ∧
      Config.ofOptions here (here.join (config.parent?.getD ⟨""⟩)) options none = .ok c := by
  unfold loadConfig
  constructor
  · intro h
    split at h
    · exact absurd h (by simp)
    · next content hread =>
      split at h
      · exact absurd h (by simp)
      · next options hoptions =>
        exact ⟨content, options, hread, hoptions, Except.mapError_eq_ok.1 h⟩
  · rintro ⟨content, options, hread, hoptions, hc⟩
    simp only [hread, hoptions]
    exact Except.mapError_eq_ok.2 hc

/-- **A project file that reads the same makes the same configuration.** -/
theorem loadConfig_of_grows (h : loadConfig here t config = .ok c) (hgrows : t.Grows t')
    (ht : t.Linkless) (ht' : t'.Linkless)
    (hfile : t'.fileAt? (here.join config).place = t.fileAt? (here.join config).place) :
    loadConfig here t' config = .ok c := by
  obtain ⟨content, options, hread, hoptions, hc⟩ := loadConfig_eq_ok_iff.1 h
  exact loadConfig_eq_ok_iff.2 ⟨content, options,
    FileTree.readText_of_grows hread hgrows ht ht' hfile, hoptions, hc⟩

/-- The command that builds a project. -/
def generation (config : Path) (verbose : Bool) (wrapper : Option Path) : Invocation :=
  ⟨config, verbose, .generate wrapper⟩

theorem run_generation_of_error (verbose : Bool) (wrapper : Option Path)
    (h : loadConfig here t config = .error f) :
    (generation config verbose wrapper).run here t = ⟨.error f, t⟩ := by
  unfold generation Invocation.run withConfig
  simp only [h]

theorem run_generation_of_ok (verbose : Bool) (wrapper : Option Path)
    (h : loadConfig here t config = .ok c) :
    (generation config verbose wrapper).run here t = generate here t c wrapper := by
  unfold generation Invocation.run withConfig
  simp only [h]

/-- **A build is all or nothing up to its first file, and touches its two files only.**  In a tree
without links, if the configuration cannot be loaded or the module cannot be generated, the tree
stays as it is; if the wrapper file cannot be written, no file changes; however the build ends, only
the wrapper file and the declaration file change; and if it succeeds, and they are two files, both
hold what one list of wrappers generates, which is derived from the elements of the sources. -/
theorem run_generation_framed (ht : t.Linkless) (here config : Path) (verbose : Bool)
    (wrapper : Option Path) :
    let outcome := (generation config verbose wrapper).run here t
    (∀ f, loadConfig here t config = .error f → outcome = ⟨.error f, t⟩) ∧
    ∀ c, loadConfig here t config = .ok c →
      (∀ e, c.generate t = .error e →
        outcome = ⟨.error (.ofBuild "Failed to generate wrappers" e), t⟩) ∧
      (∀ m path f, c.generate t = .ok m → wrapper = some path →
        (writeModule here t path m.text).result = .error f →
        outcome.result = .error f ∧ ∀ place, outcome.tree.fileAt? place = t.fileAt? place) ∧
      (∀ place, (∀ path ∈ wrapper, place ≠ (here.join path).place) →
        place ≠ c.declarationTarget.outputPath.place →
        outcome.tree.fileAt? place = t.fileAt? place) ∧
      ∀ s, outcome.result = .ok s →
        (∀ path ∈ wrapper, (here.join path).place ≠ c.declarationTarget.outputPath.place) →
        ∃ manifest ws, c.manifest t = .ok manifest ∧ c.wrapRules.wrappers manifest = .ok ws ∧
          (∀ path ∈ wrapper, outcome.tree.readText (here.join path) = .ok (wrapperModule ws)) ∧
          outcome.tree.readText c.declarationTarget.outputPath
            = .ok (declarationModule c.declarationTarget ws) := by
  intro outcome
  refine ⟨fun f hf => run_generation_of_error verbose wrapper hf, fun c hc => ?_⟩
  have houtcome : outcome = generate here t c wrapper := run_generation_of_ok verbose wrapper hc
  rw [houtcome]
  refine ⟨fun e he => generate_of_error he here wrapper, fun m path f hm hpath hf => ?_,
    fun place hwrapper hdeclared => ?_, fun s hs hne => readText_generate hs ht hne⟩
  · subst hpath
    exact generate_of_writeModule_error hm hf ht
  · refine (generate_edits here c wrapper ht).fileAt?_eq ?_
    rw [mem_outputs_iff, not_or]
    exact ⟨fun ⟨path, hpath, hplace⟩ => hwrapper path hpath hplace, hdeclared⟩

/-! ## A small project -/

/-- The project file of a project that wraps tabs. -/
def tabProjectFile : String :=
  "[components]\nglob = \"src/*.ts\"\nprefix = \"x-\"\n[output]\ndir = \"dist\"\n" ++
    "virtual_location = \"src/react.ts\"\n[package]\nsame_package = true\nsrc_path = \"src\"\n"

/-- Its source. -/
def tabSource : String :=
  "export class XTab extends HTMLElement \x7b\x7d\ncustomElements.define(\"x-tab\", XTab);\n"

/-- Its files. -/
def tabProject : FileTree :=
  ⟨.directory [("work", .directory [("facade.toml", .file tabProjectFile.toUTF8),
    ("dist", .directory []), ("src", .directory [("tab.ts", .file tabSource.toUTF8)])])]⟩

/-- Its configuration, around the pattern of its project file. -/
def tabConfig (glob : SourceGlob) : Config :=
  ⟨⟨"/work/"⟩, glob, "x-", .strict, ⟨"dist"⟩, ⟨"src/react.ts"⟩, .samePackage ⟨"src"⟩⟩

/-- The wrapper of its element. -/
def tabWrapper : Wrapper := ⟨"Tab", "x-tab", "XTab", .named, "./tab", [], [], [], none⟩

/-- Whether a pattern is that of its project file, as far as it matters for its files. -/
structure IsTabGlob (glob : SourceGlob) : Prop where
  read_eq : SourceGlob.read "src/*.ts" = .ok glob
  base_eq : glob.base = ⟨"src"⟩
  selects : glob.selectsNames ["tab.ts"] = true
  not_selects : glob.selectsNames ["react.tsx"] = false

theorem exists_isTabGlob : ∃ glob, IsTabGlob glob := by
  have h : (SourceGlob.read "src/*.ts").toOption.any fun glob => decide (glob.base = ⟨"src"⟩ ∧
      glob.selectsNames ["tab.ts"] = true ∧ glob.selectsNames ["react.tsx"] = false) := by
    decide +kernel
  obtain ⟨glob, hglob, h⟩ := (Option.any_eq_true _ _).1 h
  obtain ⟨hbase, hselects, hnot⟩ := of_decide_eq_true h
  exact ⟨glob, Except.toOption_eq_some.1 hglob, hbase, hselects, hnot⟩

theorem plain_tabProject : tabProject.Plain := FileTree.plain_of_isPlain (by decide)

/-- Its paths can be followed. -/
theorem locate_tabProject {p : Path} {names : List String} (hp : p.names = names)
    (htext : '\x00' ∉ p.chars ∧ p.text ≠ "") (hnames : ∀ s ∈ names, s ≠ "." ∧ s ≠ "..")
    (hsome : (tabProject.at? names).isSome = true) :
    tabProject.locate p = .ok (.there names) := by
  subst hp
  exact FileTree.locate_of_names plain_tabProject.linkless htext.1 htext.2 hnames hsome

/-- Its directories are found. -/
theorem isDirectory_tabProject :
    tabProject.isDirectory ⟨"/work/src"⟩ = true ∧ tabProject.isDirectory ⟨"/work/dist"⟩ = true := by
  have ht := plain_tabProject.linkless
  constructor
  · exact FileTree.isDirectory_of_locate ht (locate_tabProject
      (show _ = ["work", "src"] by decide) (by decide) (by decide) rfl) ⟨_, rfl⟩
  · exact FileTree.isDirectory_of_locate ht (locate_tabProject
      (show _ = ["work", "dist"] by decide) (by decide) (by decide) rfl) ⟨_, rfl⟩

/-- Its files are read. -/
theorem readText_tabProject :
    tabProject.readText (Path.join ⟨"/work"⟩ ⟨"facade.toml"⟩) = .ok tabProjectFile ∧
      tabProject.readText ⟨"/work/src/tab.ts"⟩ = .ok tabSource := by
  have ht := plain_tabProject.linkless
  constructor
  · exact FileTree.readText_of_locate ht (locate_tabProject
      (show _ = ["work", "facade.toml"] by decide) (by decide) (by decide) rfl) rfl
  · exact FileTree.readText_of_locate ht (locate_tabProject
      (show _ = ["work", "src", "tab.ts"] by decide) (by decide) (by decide) rfl)
      rfl

theorem options_tabProjectFile : Options.ofProjectFile tabProjectFile = some ⟨"src/*.ts", "x-",
    .strict, ⟨"dist"⟩, ⟨"src/react.ts"⟩, true, some ⟨"src"⟩, none, none⟩ := by decide +kernel

variable {glob : SourceGlob}

theorem loadConfig_tabProject (hglob : IsTabGlob glob) :
    loadConfig ⟨"/work"⟩ tabProject ⟨"facade.toml"⟩ = .ok (tabConfig glob) := by
  refine loadConfig_eq_ok_iff.2 ⟨_, _, readText_tabProject.1, options_tabProjectFile, ?_⟩
  exact Config.ofOptions_eq_ok_iff.2 ⟨⟨"/work/"⟩, glob, .samePackage ⟨"src"⟩, by decide,
    hglob.read_eq, by decide, rfl, rfl⟩

/-- Its source registers one element. -/
theorem elementsOf_tabSource : elementsOf ⟨"/work/src/tab.ts"⟩ tabSource
    = .ok [⟨"x-tab", "XTab", .named, ⟨"/work/src/tab.ts"⟩, [], [], [], none⟩] := by
  rw [← Except.toOption_eq_some]
  decide +kernel

theorem scan_tabProject (hglob : IsTabGlob glob) :
    glob.scan tabProject ⟨"/work/"⟩ = .ok [⟨"/work/src/tab.ts"⟩] := by
  have hbase : Path.join ⟨"/work/"⟩ ⟨"src"⟩ = ⟨"/work/src"⟩ := by decide
  have hsource : Path.join ⟨"/work/src"⟩ ⟨"tab.ts"⟩ = ⟨"/work/src/tab.ts"⟩ := by decide
  have hlisting : tabProject.listing ⟨"/work/src"⟩ = [["tab.ts"]] := by
    rw [FileTree.listing_eq plain_tabProject isDirectory_tabProject.1,
      show (Path.mk "/work/src").place = ["work", "src"] by decide]
    rfl
  rw [SourceGlob.scan_eq_ok_iff, hglob.base_eq, hbase, hlisting,
    List.filter_cons_of_pos hglob.selects]
  exact ⟨by simp, by simp [hsource]⟩

/-- Its module wraps the element. -/
theorem generate_tabProject (hglob : IsTabGlob glob) :
    (tabConfig glob).generate tabProject = .ok ⟨[tabWrapper], wrapperModule [tabWrapper]⟩ := by
  have helements := FileTree.elementsAt_eq_ok_iff.2
    ⟨tabSource, readText_tabProject.2, elementsOf_tabSource⟩
  have hmanifest : Manifest.ofFiles tabProject [⟨"/work/src/tab.ts"⟩]
      = .ok ⟨[⟨"x-tab", "XTab", .named, ⟨"/work/src/tab.ts"⟩, [], [], [], none⟩]⟩ :=
    Manifest.ofFiles_eq_ok_iff.2 ⟨[_], by rw [List.map_singleton, helements]; rfl,
      List.pairwise_singleton _ _, rfl⟩
  have hwrappers : WrapRules.wrappers
      ⟨"x-", .strict, .samePackage ⟨"/work/"⟩ ⟨"src"⟩ ⟨"src/react.ts"⟩⟩
      ⟨[⟨"x-tab", "XTab", .named, ⟨"/work/src/tab.ts"⟩, [], [], [], none⟩]⟩
      = .ok [tabWrapper] := by decide +kernel
  exact Config.generate_eq_ok_iff.2
    ⟨_, Config.manifest_eq_ok_iff.2 ⟨_, scan_tabProject hglob, hmanifest⟩, hwrappers, rfl⟩

theorem place_wrapper_tabProject :
    (Path.join ⟨"/work"⟩ ⟨"src/react.tsx"⟩).place = ["work", "src", "react.tsx"] := by decide

theorem place_declarations_tabProject :
    (Path.mk "/work/dist/react.d.ts").place = ["work", "dist", "react.d.ts"] := by decide

/-- A wrapper file can be written beside its source. -/
theorem writeRequested_tabProject (text : String) :
    writeRequested ⟨"/work"⟩ tabProject (some ⟨"src/react.tsx"⟩) text
      = ⟨.ok "", tabProject.put ["work", "src", "react.tsx"] (.file text.toUTF8)⟩ := by
  have ht := plain_tabProject.linkless
  have hmade : makeDirectoryOf ⟨"/work"⟩ tabProject ⟨"src/react.tsx"⟩ = .ok tabProject := by
    have hparent : Path.parent? ⟨"src/react.tsx"⟩ = some ⟨"src"⟩ := by decide
    have hjoin : Path.join ⟨"/work"⟩ ⟨"src"⟩ = ⟨"/work/src"⟩ := by decide
    unfold makeDirectoryOf
    simp only [hparent, hjoin, FileTree.makeDirectoriesOrStop_eq_ok_iff.2
      (FileTree.makeDirectories_of_isDirectory isDirectory_tabProject.1 ht)]
    rfl
  have hwrite : tabProject.write (Path.join ⟨"/work"⟩ ⟨"src/react.tsx"⟩) text.toUTF8 = .ok _ :=
    (FileTree.write_eq_ok_iff ht).2
    ⟨FileTree.writable_of_names ht (by decide) (by decide)
      (show (Path.join ⟨"/work"⟩ ⟨"src/react.tsx"⟩).names = ["work", "src"] ++ ["react.tsx"] by
        decide) (by decide) ⟨_, rfl⟩ rfl, rfl⟩
  rw [writeRequested_some, writeModule, hmade]
  simp only [hwrite, place_wrapper_tabProject]

theorem declarationTarget_tabConfig (glob : SourceGlob) :
    (tabConfig glob).declarationTarget = ⟨⟨"/work/dist"⟩, ⟨"/work/src/react.ts"⟩, true⟩ := by
  have hdir : Path.join ⟨"/work/"⟩ ⟨"dist"⟩ = ⟨"/work/dist"⟩ := by decide
  have hlocation : Path.join ⟨"/work/"⟩ ⟨"src/react.ts"⟩ = ⟨"/work/src/react.ts"⟩ := by
    decide
  exact congrArg₂ (fun dir location => DeclarationTarget.mk dir location true) hdir hlocation

theorem outputPath_tabConfig (glob : SourceGlob) :
    (tabConfig glob).declarationTarget.outputPath = ⟨"/work/dist/react.d.ts"⟩ := by
  rw [declarationTarget_tabConfig]
  decide

/-- Behind the wrapper file, its declarations can be written. -/
theorem exists_write_tabProject (glob : SourceGlob) (content : ByteArray) (ws : List Wrapper) :
    ∃ t, (tabConfig glob).declarationTarget.write
      (tabProject.put ["work", "src", "react.tsx"] (.file content)) ws = .ok t := by
  have hedit : FileTree.Edit Set.univ tabProject
      (tabProject.put ["work", "src", "react.tsx"] (.file content)) :=
    .file (⟨by decide, _, rfl⟩ : tabProject.Fits ["work", "src"] "react.tsx") (Or.inl rfl)
      (Set.mem_univ _)
  have hnone : (tabProject.put ["work", "src", "react.tsx"] (.file content)).at?
      ["work", "dist", "react.d.ts"] = none := rfl
  generalize tabProject.put ["work", "src", "react.tsx"] (.file content) = t at hedit hnone ⊢
  have ht := hedit.linkless plain_tabProject.linkless
  have hdir : t.isDirectory (tabConfig glob).declarationTarget.outDir = true := by
    rw [declarationTarget_tabConfig]
    exact FileTree.isDirectory_of_grows isDirectory_tabProject.2 hedit.grows
      plain_tabProject.linkless ht
  have hwritable : t.Writable (tabConfig glob).declarationTarget.outputPath := by
    rw [outputPath_tabConfig]
    exact FileTree.writable_of_names ht (by decide) (by decide)
      (show _ = ["work", "dist"] ++ ["react.d.ts"] by decide) (by decide)
      (hedit.grows.hasDirectory ⟨_, rfl⟩) hnone
  exact ⟨_, DeclarationTarget.write_of_makeDirectories ht
    (FileTree.makeDirectories_of_isDirectory hdir ht)
    ((FileTree.write_eq_ok_iff ht).2 ⟨hwritable, rfl⟩)⟩

/-- Building it succeeds, with a wrapper file beside its source. -/
theorem result_run_tabProject (hglob : IsTabGlob glob) :
    ((generation ⟨"facade.toml"⟩ false (some ⟨"src/react.tsx"⟩)).run ⟨"/work"⟩ tabProject).result
      = .ok "" := by
  rw [run_generation_of_ok false _ (loadConfig_tabProject hglob),
    generate_of_ok (generate_tabProject hglob), writeRequested_tabProject]
  obtain ⟨t, ht⟩ := exists_write_tabProject glob (wrapperModule [tabWrapper]).toUTF8 [tabWrapper]
  simp only [DeclarationTarget.writeOrStop_eq_ok_iff.2 ⟨rfl, ht⟩]

/-- Its files when it has been built: the source is as it was, and both outputs are there. -/
theorem run_generation_framed_tabProject :
    ∃ c ws, loadConfig ⟨"/work"⟩ tabProject ⟨"facade.toml"⟩ = .ok c ∧
      let command := generation ⟨"facade.toml"⟩ false (some ⟨"src/react.tsx"⟩)
      let outcome := command.run ⟨"/work"⟩ tabProject
      outcome.result = .ok "" ∧
      outcome.tree.fileAt? ["work", "src", "tab.ts"] = some tabSource.toUTF8 ∧
      outcome.tree.readText (Path.join ⟨"/work"⟩ ⟨"src/react.tsx"⟩) = .ok (wrapperModule ws) ∧
      outcome.tree.readText ⟨"/work/dist/react.d.ts"⟩
        = .ok (declarationModule c.declarationTarget ws) := by
  obtain ⟨glob, hglob⟩ := exists_isTabGlob
  have hc := loadConfig_tabProject hglob
  have hresult := result_run_tabProject hglob
  obtain ⟨-, hrun⟩ := run_generation_framed plain_tabProject.linkless ⟨"/work"⟩ ⟨"facade.toml"⟩
    false (some ⟨"src/react.tsx"⟩)
  obtain ⟨-, -, hframe, hok⟩ := hrun _ hc
  rw [outputPath_tabConfig, place_declarations_tabProject] at hframe
  rw [outputPath_tabConfig] at hok
  obtain ⟨-, ws, -, -, hmodule, hdeclarations⟩ :=
    hok "" hresult (by simp [place_wrapper_tabProject, place_declarations_tabProject])
  refine ⟨_, ws, hc, hresult, ?_, hmodule _ rfl, hdeclarations⟩
  rw [hframe ["work", "src", "tab.ts"] (by simp [place_wrapper_tabProject]) (by decide)]
  rfl

end ElementBindings.CommandLine
