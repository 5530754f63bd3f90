import ElementBindings.Proofs.Files.Creation
import ElementBindings.Proofs.Glob.Scan
import ElementBindings.Proofs.Glob.Source
import ElementBindings.Proofs.Path.Order
import Mathlib.Data.List.Sort

/-!
# Proofs/Glob/Order — what a scan finds, and in which order

A scan finds the regular files below the base of its pattern that the pattern selects (`Finds`),
each of them once and in the order of their paths; without any it fails.  So it gives the same for
all trees with the same files, whatever order they have been made in (`scan_exact`).
-/

namespace ElementBindings.SourceGlob

variable {g : SourceGlob} {t t' : FileTree} {root : Path} {rel : List String} {pattern : String}

/-! ## What is found -/

/-- **What a scan is to find**: a regular file that is selected, below a base that is a directory,
by the names that lead to it from the base. -/
structure Finds (g : SourceGlob) (t : FileTree) (root : Path) (rel : List String) : Prop where
  isDirectory : t.isDirectory (root.join g.base) = true
  isFile : (t.fileAt? ((root.join g.base).place ++ rel)).isSome = true
  isSelected : g.selectsNames rel = true

/-- The names of what a scan selects, in order. -/
def found (g : SourceGlob) (t : FileTree) (root : Path) : List (List String) :=
  ((t.listing (root.join g.base)).filter g.selectsNames).mergeSort fun ns ms => decide (ns ≤ ms)

/-- The path of a file below the base. -/
def pathOf (g : SourceGlob) (root : Path) (rel : List String) : Path :=
  (root.join g.base).join ⟨"/".intercalate rel⟩

/-- **A scan finds all that it is to find**, and nothing else. -/
theorem mem_found_iff (ht : t.Plain) : rel ∈ g.found t root ↔ g.Finds t root rel := by
  rw [found, List.mem_mergeSort, List.mem_filter, FileTree.mem_listing_iff ht]
  exact ⟨fun h => ⟨h.1.1, h.1.2, h.2⟩, fun h => ⟨⟨h.isDirectory, h.isFile⟩, h.isSelected⟩⟩

theorem found_eq_nil_iff (ht : t.Plain) : g.found t root = [] ↔ ∀ rel, ¬g.Finds t root rel := by
  simp only [List.eq_nil_iff_forall_not_mem, mem_found_iff ht]

/-- What can be found is found in a tree that has grown. -/
theorem Finds.of_grows (h : g.Finds t root rel) (hgrows : t.Grows t') (ht : t.Linkless)
    (ht' : t'.Linkless) : g.Finds t' root rel where
  isDirectory := FileTree.isDirectory_of_grows h.isDirectory hgrows ht ht'
  isFile := hgrows.isSome_fileAt? h.isFile
  isSelected := h.isSelected

/-! ## In which order -/

/-- **What is found is in strict order**, and so nothing is found twice. -/
theorem pairwise_found (ht : t.Plain) : (g.found t root).Pairwise (· < ·) := by
  have hle : (g.found t root).Pairwise fun ns ms => decide (ns ≤ ms) = true := by
    refine List.pairwise_mergeSort (fun ns ms ls h h' => ?_) (fun ns ms => ?_) _
    · exact decide_eq_true ((of_decide_eq_true h).trans (of_decide_eq_true h'))
    · simpa using le_total ns ms
  have hne : (g.found t root).Pairwise (· ≠ ·) :=
    (List.mergeSort_perm _ _).nodup_iff.2 ((FileTree.nodup_listing ht).filter _)
  exact (hle.and hne).imp fun h => lt_of_le_of_ne (of_decide_eq_true h.1) h.2

section Names

variable (ht : t.Plain)

include ht

theorem isFileName_of_mem_selected
    (h : rel ∈ (t.listing (root.join g.base)).filter g.selectsNames) :
    ∀ s ∈ rel, Path.IsFileName s :=
  FileTree.isFileName_of_mem_listing ht (List.mem_filter.1 h).1

/-- **The paths of what is found are in strict order**, component by component. -/
theorem pairwise_paths_found : ((g.found t root).map (g.pathOf root)).Pairwise Path.Before := by
  rw [List.pairwise_map]
  refine (pairwise_found ht).imp_of_mem fun hns hms hlt => ?_
  rw [found, List.mem_mergeSort] at hns hms
  have hnames := isFileName_of_mem_selected ht hns
  exact (Path.before_join_names_iff hnames (isFileName_of_mem_selected ht hms) _).2 hlt

/-- **A scan gives the paths of what is found**, if that is anything. -/
theorem scan_eq_found : g.scan t root =
    if g.found t root = [] then .error (.noMatch g.pattern)
    else .ok ((g.found t root).map (g.pathOf root)) := by
  have hempty : (t.listing (root.join g.base)).filter g.selectsNames = []
      ↔ g.found t root = [] := by
    rw [← List.length_eq_zero_iff, ← List.length_eq_zero_iff, found, List.length_mergeSort]
  -- sorting the paths and sorting their names is the same
  have hsorted : (((t.listing (root.join g.base)).filter g.selectsNames).map
      (g.pathOf root)).mergeSort Path.le = (g.found t root).map (g.pathOf root) := by
    refine (List.map_mergeSort fun ns hns ms hms => ?_).symm
    have hnames := isFileName_of_mem_selected ht hns
    exact (Path.le_join_names hnames (isFileName_of_mem_selected ht hms) _).symm
  rw [scan_eq]
  exact if_congr (List.isEmpty_iff.trans hempty) rfl (congrArg _ hsorted)

end Names

/-! ## Whatever order a tree is made in -/

/-- **What is found is the same in trees that have the same files in the same directories.** -/
theorem found_eq_of_grows (ht : t.Plain) (ht' : t'.Plain) (h : t.Grows t') (h' : t'.Grows t) :
    g.found t' root = g.found t root := by
  refine (pairwise_found ht').eq_of_mem_iff (pairwise_found ht) fun rel => ?_
  rw [mem_found_iff ht', mem_found_iff ht]
  exact ⟨fun hfinds => hfinds.of_grows h' ht'.linkless ht.linkless,
    fun hfinds => hfinds.of_grows h ht.linkless ht'.linkless⟩

/-- **A scan does not tell in which order a tree has been made.** -/
theorem scan_create_of_perm {start : FileTree} {steps steps' : List FileTree.Creation}
    (hperm : steps.Perm steps') (h : start.create steps = .ok t)
    (h' : start.create steps' = .ok t') (hstart : start.Plain) :
    g.scan t' root = g.scan t root := by
  have ht := FileTree.plain_create h hstart
  have ht' := FileTree.plain_create h' hstart
  have hkinds := FileTree.kindAt?_create_of_perm hperm h h' hstart
  rw [scan_eq_found ht', scan_eq_found ht, found_eq_of_grows ht ht'
    (ht.linkless.grows_of_kindAt? ht'.linkless hkinds)
    (ht'.linkless.grows_of_kindAt? ht.linkless fun q => (hkinds q).symm)]

/-! ## Scanning -/

/-- **A scan finds exactly what matches, in order.**  Without anything to find, also because its
base is missing or no directory, it fails.  Otherwise it gives the paths of all that is to be found,
each of them once and in the order of their components.  The order in which the tree has been made
does not matter. -/
theorem scan_exact (hread : SourceGlob.read pattern = .ok g) (root : Path) :
    (∀ t : FileTree, t.Plain →
      ((∀ rel, ¬g.Finds t root rel) → g.scan t root = .error (.noMatch pattern)) ∧
      ((∃ rel, g.Finds t root rel) → ∃ rels : List (List String),
        (∀ rel, rel ∈ rels ↔ g.Finds t root rel) ∧
        (rels.map (g.pathOf root)).Pairwise Path.Before ∧ (rels.map (g.pathOf root)).Nodup ∧
        g.scan t root = .ok (rels.map (g.pathOf root)))) ∧
    ∀ (start t t' : FileTree) (steps steps' : List FileTree.Creation), start.Plain →
      steps.Perm steps' → start.create steps = .ok t → start.create steps' = .ok t' →
        g.scan t' root = g.scan t root := by
  refine ⟨fun t ht => ⟨fun hnone => ?_, ?_⟩,
    fun start t t' steps steps' hstart hperm h h' => scan_create_of_perm hperm h h' hstart⟩
  · obtain ⟨outer, last, hg⟩ := read_eq_ok_iff.1 hread
    rw [scan_eq_found ht, if_pos ((found_eq_nil_iff ht).2 hnone), hg.pattern_eq]
  · rintro ⟨rel, hrel⟩
    have hfound : g.found t root ≠ [] := fun hnil => (found_eq_nil_iff ht).1 hnil rel hrel
    have hordered : ((g.found t root).map (g.pathOf root)).Pairwise Path.Before :=
      pairwise_paths_found ht
    refine ⟨g.found t root, fun rel => mem_found_iff ht, hordered, hordered.imp Path.Before.ne, ?_⟩
    rw [scan_eq_found ht, if_neg hfound]

/-- A project whose sources have not been written yet. -/
def tabFolders : FileTree :=
  ⟨.directory [("work", .directory [("src", .directory [("tab", .directory [])])])]⟩

/-- The steps that write its sources: one beside a directory, and one in it. -/
def tabSteps : List FileTree.Creation :=
  [.file ⟨"/work/src/tab.ts"⟩ .empty, .file ⟨"/work/src/tab/item.ts"⟩ .empty]

theorem plain_tabFolders : tabFolders.Plain := FileTree.plain_of_isPlain (by decide)

/-- A source can be written where it is not yet. -/
theorem write_tabSource (ht : t.Linkless) {p : Path} {d : List String} {name : String}
    (hp : p.names = d ++ [name] ∧ p.place = d ++ [name])
    (hclean : '\x00' ∉ p.chars ∧ p.endsWithSlash = false ∧ ∀ s ∈ d ++ [name], s ≠ "." ∧ s ≠ "..")
    (hdir : t.HasDirectory d) (hnone : t.at? (d ++ [name]) = none) :
    t.write p .empty = .ok (t.put (d ++ [name]) (.file .empty)) := by
  obtain ⟨hnul, hslash, hnames⟩ := hclean
  rw [← hp.2]
  exact (FileTree.write_eq_ok_iff ht).2
    ⟨FileTree.writable_of_names ht hnul hslash hp.1 hnames hdir hnone, rfl⟩

/-- Its sources can be written in either order. -/
theorem create_tabSteps : ∃ t t', tabFolders.create tabSteps = .ok t ∧
    tabFolders.create tabSteps.reverse = .ok t' ∧ t.HasDirectory ["work", "src"] ∧
    (t.fileAt? ["work", "src", "tab.ts"]).isSome = true ∧
    (t.fileAt? ["work", "src", "tab", "item.ts"]).isSome = true := by
  have hbeside : ∀ t : FileTree, t.Linkless → t.HasDirectory ["work", "src"] →
      t.at? ["work", "src", "tab.ts"] = none → t.write ⟨"/work/src/tab.ts"⟩ .empty
        = .ok (t.put ["work", "src", "tab.ts"] (.file .empty)) :=
    fun t ht => write_tabSource (d := ["work", "src"]) ht (by decide) (by decide)
  have hinside : ∀ t : FileTree, t.Linkless → t.HasDirectory ["work", "src", "tab"] →
      t.at? ["work", "src", "tab", "item.ts"] = none → t.write ⟨"/work/src/tab/item.ts"⟩ .empty
        = .ok (t.put ["work", "src", "tab", "item.ts"] (.file .empty)) :=
    fun t ht => write_tabSource (d := ["work", "src", "tab"]) ht (by decide) (by decide)
  have ht := plain_tabFolders.linkless
  have h := hbeside tabFolders ht ⟨_, rfl⟩ rfl
  have h' := hinside tabFolders ht ⟨_, rfl⟩ rfl
  have hnext := hinside _ ((FileTree.write_edits h ht).linkless ht) ⟨_, rfl⟩ rfl
  have hnext' := hbeside _ ((FileTree.write_edits h' ht).linkless ht) ⟨_, rfl⟩ rfl
  exact ⟨_, _, FileTree.create_cons_eq_ok_iff.2 ⟨_, h, FileTree.create_cons_eq_ok_iff.2
      ⟨_, hnext, rfl⟩⟩,
    FileTree.create_cons_eq_ok_iff.2 ⟨_, h', FileTree.create_cons_eq_ok_iff.2
      ⟨_, hnext', rfl⟩⟩, ⟨_, rfl⟩, rfl, rfl⟩

/-- Their directory is reached by its path. -/
theorem isDirectory_tabSources (ht : t.Linkless) (h : t.HasDirectory ["work", "src"]) :
    t.isDirectory ⟨"/work/src"⟩ = true := by
  have hsome : (t.at? ["work", "src"]).isSome = true := by
    obtain ⟨entries, h⟩ := h
    exact Option.isSome_of_eq_some h
  exact FileTree.isDirectory_of_locate ht
    (FileTree.locate_of_names ht (by decide) (by decide) (by decide) hsome) h

/-- Before its sources are written nothing is found, and afterwards both of them are, in whichever
order they were written. -/
theorem scan_exact_tabSteps : ∃ g t t', ∃ rels : List (List String),
    SourceGlob.read "src/**/*.ts" = .ok g ∧ tabFolders.create tabSteps = .ok t ∧
    tabFolders.create tabSteps.reverse = .ok t' ∧
    g.scan tabFolders ⟨"/work"⟩ = .error (.noMatch "src/**/*.ts") ∧
    g.scan t ⟨"/work"⟩ = .ok (rels.map (g.pathOf ⟨"/work"⟩)) ∧ ["tab.ts"] ∈ rels ∧
    ["tab", "item.ts"] ∈ rels ∧ g.scan t' ⟨"/work"⟩ = g.scan t ⟨"/work"⟩ := by
  have hread : (SourceGlob.read "src/**/*.ts").toOption.any fun g => decide (g.base = ⟨"src"⟩ ∧
      g.selectsNames ["tab.ts"] = true ∧ g.selectsNames ["tab", "item.ts"] = true) := by
    decide +kernel
  obtain ⟨g, hread, h⟩ := (Option.any_eq_true _ _).1 hread
  obtain ⟨hbase, hbeside, hinside⟩ := of_decide_eq_true h
  obtain ⟨t, t', h, h', hsrc, htab, hitem⟩ := create_tabSteps
  have hplain := FileTree.plain_create h plain_tabFolders
  have hroot : Path.join ⟨"/work"⟩ g.base = ⟨"/work/src"⟩ := by rw [hbase]; decide
  have hplace : (Path.mk "/work/src").place = ["work", "src"] := by decide
  obtain ⟨hscan, horder⟩ := scan_exact (Except.toOption_eq_some.1 hread) ⟨"/work"⟩
  have hnone : ∀ rel, ¬g.Finds tabFolders ⟨"/work"⟩ rel := by
    intro rel hrel
    have hfile := hrel.isFile
    rw [hroot, hplace, ← FileTree.mem_filePlaces_iff plain_tabFolders
      (show tabFolders.at? ["work", "src"] = some _ from rfl)] at hfile
    exact absurd hfile List.not_mem_nil
  have hdir : t.isDirectory (Path.join ⟨"/work"⟩ g.base) = true := by
    rw [hroot]
    exact isDirectory_tabSources hplain.linkless hsrc
  have hfinds : ∀ rel, (t.fileAt? (["work", "src"] ++ rel)).isSome = true →
      g.selectsNames rel = true → g.Finds t ⟨"/work"⟩ rel := fun rel hfile hselected =>
    ⟨hdir, by rwa [hroot, hplace], hselected⟩
  obtain ⟨rels, hrels, -, -, hok⟩ := (hscan t hplain).2 ⟨_, hfinds _ htab hbeside⟩
  exact ⟨g, t, t', rels, Except.toOption_eq_some.1 hread, h, h',
    (hscan _ plain_tabFolders).1 hnone, hok, (hrels _).2 (hfinds _ htab hbeside),
    (hrels _).2 (hfinds _ hitem hinside),
    horder _ t t' _ _ plain_tabFolders (List.reverse_perm _).symm h h'⟩

end ElementBindings.SourceGlob
