import ElementBindings.Glob.Source
import ElementBindings.Proofs.Files.Listing

/-!
# Proofs/Glob/Scan — what a scan depends on

A scan finds files below the base of its pattern (`exists_place_of_mem_scan`), and edits that write
no file which the pattern selects leave it as it is (`scan_of_edits`).
-/

namespace ElementBindings.SourceGlob

variable {g : SourceGlob} {t t' : FileTree} {root p : Path} {paths : List Path}
  {outs : Set (List String)}

/-- Whether some names are those of a path that is selected. -/
def selectsNames (g : SourceGlob) (names : List String) : Bool :=
  g.selects ⟨"/".intercalate names⟩

theorem scan_eq (g : SourceGlob) (t : FileTree) (root : Path) :
    g.scan t root =
      let selected := (t.listing (root.join g.base)).filter g.selectsNames
      if selected.isEmpty then .error (.noMatch g.pattern)
      else .ok ((selected.map fun names =>
        (root.join g.base).join ⟨"/".intercalate names⟩).mergeSort Path.le) := by
  rw [scan, List.filter_map]
  simp only [List.isEmpty_map, List.map_map]
  rfl

/-- A scan succeeds with what it selects, if that is anything. -/
theorem scan_eq_ok_iff :
    g.scan t root = .ok paths ↔ (t.listing (root.join g.base)).filter g.selectsNames ≠ [] ∧
      paths = (((t.listing (root.join g.base)).filter g.selectsNames).map fun names =>
        (root.join g.base).join ⟨"/".intercalate names⟩).mergeSort Path.le := by
  rw [scan_eq]
  dsimp only
  split
  · next h => exact iff_of_false (by simp) fun hn => hn.1 (List.isEmpty_iff.1 h)
  · next h =>
    rw [Except.ok.injEq, and_iff_right fun he => h (List.isEmpty_iff.2 he)]
    exact eq_comm

/-- A scan that finds anything starts at a directory. -/
theorem isDirectory_of_scan (h : g.scan t root = .ok paths) (ht : t.Linkless) :
    t.isDirectory (root.join g.base) = true := by
  by_contra hdir
  refine (scan_eq_ok_iff.1 h).1 ?_
  rw [FileTree.listing_eq_nil ht hdir]
  rfl

/-- **What a scan finds lies below the base**, under names that are selected. -/
theorem exists_place_of_mem_scan (h : g.scan t root = .ok paths) (ht : t.Plain) (hp : p ∈ paths) :
    ∃ rel, p.place = (root.join g.base).place ++ rel ∧ g.selectsNames rel = true := by
  have hdir := isDirectory_of_scan h ht.linkless
  obtain ⟨-, rfl⟩ := scan_eq_ok_iff.1 h
  rw [List.mem_mergeSort, List.mem_map] at hp
  obtain ⟨rel, hrel, rfl⟩ := hp
  obtain ⟨hlisted, hselected⟩ := List.mem_filter.1 hrel
  obtain ⟨-, entries, hentries⟩ := (FileTree.isDirectory_iff ht.linkless).1 hdir
  rw [FileTree.listing_eq ht hdir, hentries] at hlisted
  have hnames := FileTree.isFileName_of_mem_filePlaces ht hentries hlisted
  have hslash : ∀ s ∈ rel, '/' ∉ s.toList := fun s hs => (hnames s hs).slash_notMem
  have hrelative := Path.isAbsolute_intercalate fun s hs => ⟨(hnames s hs).1, hslash s hs⟩
  refine ⟨rel, ?_, hselected⟩
  rw [Path.place_join hrelative, Path.named_intercalate hslash, Path.filterMap_ofPiece? hnames,
    Path.walk_names]

/-- **A scan finds the same behind edits** that write no file which it could find. -/
theorem scan_of_edits (h : g.scan t root = .ok paths) (ht : t.Plain)
    (hedits : FileTree.Edits outs t t')
    (houts : ∀ rel, (root.join g.base).place ++ rel ∈ outs → g.selectsNames rel = false) :
    g.scan t' root = .ok paths := by
  have hdir := isDirectory_of_scan h ht.linkless
  have hplain := hedits.plain ht
  have hdir' := FileTree.isDirectory_of_grows hdir hedits.grows ht.linkless hplain.linkless
  have hbase := ((FileTree.isDirectory_iff ht.linkless).1 hdir).2
  rw [scan_eq_ok_iff, FileTree.listing_eq ht hdir] at h
  rw [scan_eq_ok_iff, FileTree.listing_eq hplain hdir', hedits.filter_filePlaces hbase houts]
  exact h

end ElementBindings.SourceGlob
