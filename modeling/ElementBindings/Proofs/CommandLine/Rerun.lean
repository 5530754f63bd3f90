import ElementBindings.Proofs.CommandLine.Generate

/-!
# Proofs/CommandLine/Rerun — building a project a second time

The second build starts from another tree than the first one: directories have been made, and both
files are there.  Its sources read the same (`Config.generate_of_edits`), so it generates the same
texts, and writing them again leaves the tree as it is (`generate_again`).
-/

namespace ElementBindings.CommandLine

variable {here config path : Path} {t t' u : FileTree} {c : Config} {m : GeneratedModule}
  {wrapper : Option Path} {text s : String} {place : List String}

/-! ## The wrapper file -/

/-- The tree with a text at the place of the wrapper file, if there is one. -/
def putRequested (here : Path) (t : FileTree) (wrapper : Option Path) (text : String) : FileTree :=
  match wrapper with
  | some path => t.put (here.join path).place (.file text.toUTF8)
  | none => t

/-- **A wrapper file that has been written can be written again** in a tree that has grown since. -/
theorem writeRequested_of_grows (h : writeRequested here t wrapper text = ⟨.ok s, t'⟩)
    (hgrows : t'.Grows u) (ht : t.Linkless) (hu : u.Linkless) :
    writeRequested here u wrapper text = ⟨.ok "", putRequested here u wrapper text⟩ := by
  cases wrapper with
  | none => rfl
  | some path =>
    rw [writeRequested_some] at h ⊢
    rcases writeModule_cases here path text ht with
      ⟨f, t'', herror, -⟩ | ⟨made, t'', hmade, hwrite, hok⟩
    · exact absurd (congrArg Outcome.result (herror.symm.trans h)) (by simp)
    · obtain rfl : t'' = t' := congrArg Outcome.tree (hok.symm.trans h)
      have hlinkless := (makeDirectoryOf_edits hmade ht).linkless ht
      have hgrows' := (FileTree.write_edits hwrite hlinkless).grows.trans hgrows
      rw [writeModule, makeDirectoryOf_of_grows hmade hgrows' ht hu]
      dsimp only
      rw [FileTree.write_of_grows hwrite hgrows hlinkless hu]
      rfl

/-! ## The build -/

/-- **Declarations written behind a wrapper file are there again** when both are written anew: the
wrapper file was as it is put, or the declarations had been written over it. -/
theorem write_putRequested (h : c.declarationTarget.write t m.wrappers = .ok t')
    (ht : t.Linkless) (hread : ∀ path ∈ wrapper, t.readText (here.join path) = .ok text) :
    c.declarationTarget.write (putRequested here t' wrapper text) m.wrappers = .ok t' := by
  cases wrapper with
  | none => exact DeclarationTarget.write_again h ht
  | some path =>
    have hfile := ((FileTree.readText_eq_ok_iff ht).1 (hread path rfl)).2
    rw [putRequested]
    by_cases hplace : (here.join path).place = c.declarationTarget.outputPath.place
    · rw [hplace] at hfile ⊢
      exact DeclarationTarget.write_restores h ht hfile
    · have hkept := (DeclarationTarget.write_edits h ht).fileAt?_eq hplace
      rw [FileTree.put_eq_self (FileTree.fileAt?_eq_some_iff.1 (hkept.trans hfile))]
      exact DeclarationTarget.write_again h ht

/-- **A build that has succeeded can be repeated, and ends the same.** -/
theorem generate_again (h : (generate here t c wrapper).result = .ok s) (ht : t.Plain)
    (houts : ∀ place ∈ outputs here c wrapper, ¬c.IsSourcePlace place) :
    generate here (generate here t c wrapper).tree c wrapper = generate here t c wrapper := by
  obtain ⟨m, t', t'', hgenerate, hm, hwritten, hdeclared, hedits, hread⟩ :=
    generate_eq_ok h ht.linkless
  have hall := generate_edits here c wrapper ht.linkless
  have ht' := hedits.linkless ht.linkless
  have hgrows := (DeclarationTarget.write_edits hdeclared ht').grows
  rw [hgenerate] at hall ⊢
  rw [generate_of_ok (Config.generate_of_edits hm ht hall houts),
    writeRequested_of_grows hwritten hgrows ht.linkless (hall.linkless ht.linkless)]
  simp only [DeclarationTarget.writeOrStop_eq_ok_iff.2 ⟨rfl, write_putRequested hdeclared ht' hread⟩]

/-- **Building a project twice is building it once.**  In a tree without links, if the command
succeeds and neither of its files is the project file or a place that the scan looks for sources at,
then it ends the same a second time and leaves the tree as it is: the second scan finds the same
sources, and each of them reads the same. -/
theorem run_generation_idempotent (ht : t.Plain) {verbose : Bool}
    (hc : loadConfig here t config = .ok c)
    (hrun : ((generation config verbose wrapper).run here t).result = .ok s)
    (houts : ∀ place ∈ outputs here c wrapper,
      place ≠ (here.join config).place ∧ ¬c.IsSourcePlace place) :
    let outcome := (generation config verbose wrapper).run here t
    (generation config verbose wrapper).run here outcome.tree = outcome ∧
    ∃ paths, c.glob.scan t c.root = .ok paths ∧ c.glob.scan outcome.tree c.root = .ok paths ∧
      ∀ path ∈ paths, ∃ source,
        t.readText path = .ok source ∧ outcome.tree.readText path = .ok source := by
  intro outcome
  have houtcome : outcome = generate here t c wrapper := run_generation_of_ok verbose wrapper hc
  rw [run_generation_of_ok verbose wrapper hc] at hrun
  have hedits := generate_edits here c wrapper ht.linkless
  have hsources : ∀ place ∈ outputs here c wrapper, ¬c.IsSourcePlace place :=
    fun place hplace => (houts place hplace).2
  have hc' : loadConfig here (generate here t c wrapper).tree config = .ok c :=
    loadConfig_of_grows hc hedits.grows ht.linkless (hedits.linkless ht.linkless)
      (hedits.fileAt?_eq fun hplace => (houts _ hplace).1 rfl)
  rw [houtcome]
  constructor
  · rw [run_generation_of_ok verbose wrapper hc', generate_again hrun ht hsources]
  · obtain ⟨m, -, -, -, hm, -⟩ := generate_eq_ok hrun ht.linkless
    obtain ⟨manifest, hmanifest, -⟩ := Config.generate_eq_ok_iff.1 hm
    obtain ⟨paths, hscan, hfiles⟩ := Config.manifest_eq_ok_iff.1 hmanifest
    obtain ⟨hscan', hread⟩ := Config.scan_of_edits hscan ht hedits hsources
    refine ⟨paths, hscan, hscan', fun path hpath => ?_⟩
    obtain ⟨source, -, hsource, -⟩ := (Manifest.ofFiles_eq_ok_iff.1 hfiles).exists_readText hpath
    exact ⟨source, hsource, hread path hpath source hsource⟩

/-- A project whose wrapper file is written among its sources, under a name that is not selected. -/
theorem run_generation_idempotent_tabProject :
    let command := generation ⟨"facade.toml"⟩ false (some ⟨"src/react.tsx"⟩)
    (command.run ⟨"/work"⟩ tabProject).result = .ok "" ∧
      command.run ⟨"/work"⟩ (command.run ⟨"/work"⟩ tabProject).tree
        = command.run ⟨"/work"⟩ tabProject := by
  obtain ⟨glob, hglob⟩ := exists_isTabGlob
  have hc := loadConfig_tabProject hglob
  have hresult := result_run_tabProject hglob
  have hconfig : (Path.join ⟨"/work"⟩ ⟨"facade.toml"⟩).place = ["work", "facade.toml"] := by
    decide
  have hbase : (Path.join ⟨"/work/"⟩ glob.base).place = ["work", "src"] := by
    rw [hglob.base_eq]
    decide
  have houts : ∀ place ∈ outputs ⟨"/work"⟩ (tabConfig glob) (some ⟨"src/react.tsx"⟩),
      place ≠ (Path.join ⟨"/work"⟩ ⟨"facade.toml"⟩).place ∧
        ¬(tabConfig glob).IsSourcePlace place := by
    intro place hplace
    rcases mem_outputs_iff.1 hplace with ⟨path, hpath, hplace⟩ | hplace
    · obtain rfl := Option.mem_some_iff.1 hpath
      rw [place_wrapper_tabProject] at hplace
      refine ⟨by rw [hplace, hconfig]; decide, fun ⟨rel, hrel, hselects⟩ => ?_⟩
      obtain rfl : ["react.tsx"] = rel := by simpa [tabConfig, hplace, hbase] using hrel
      exact absurd (hglob.not_selects.symm.trans hselects) (by decide)
    · rw [outputPath_tabConfig, place_declarations_tabProject] at hplace
      refine ⟨by rw [hplace, hconfig]; decide, fun ⟨rel, hrel, _⟩ => ?_⟩
      exact absurd hrel (by simp [tabConfig, hplace, hbase])
  exact ⟨hresult, (run_generation_idempotent plain_tabProject hc hresult houts).1⟩

end ElementBindings.CommandLine
