import ElementBindings.Proofs.Element.Registration

/-!
# Proofs/Element/Discovery — each tag stands for one element of a build

A build goes through its files one by one.  It succeeds when every file has elements and no two
files share a tag (`ofFiles_eq_ok_iff`); otherwise the first file that does not suit those before it
gives the error, which names the first file that registers the tag (`ofFiles_eq_error_iff`).
-/

namespace ElementBindings

/-! ## Files -/

namespace FileTree

/-- The elements that a file registers. -/
def elementsAt (t : FileTree) (path : Path) : Except ManifestError (List Element) := do
  elementsOf path (← (t.readText path).mapError (.unreadable path))

/-- Whether a file registers a tag. -/
def registers (t : FileTree) (tag : String) (path : Path) : Bool :=
  match t.elementsAt path with
  | .ok es => es.any (·.tagName == tag)
  | .error _ => false

variable {t : FileTree} {path : Path} {es : List Element}

/-- **A file has elements when it can be read and its text has.** -/
theorem elementsAt_eq_ok_iff :
    t.elementsAt path = .ok es
      ↔ ∃ source, t.readText path = .ok source ∧ elementsOf path source = .ok es := by
  rw [elementsAt, Except.bind_eq_ok]
  exact exists_congr fun source => and_congr_left' Except.mapError_eq_ok

theorem elementsOf_of_elementsAt (h : t.elementsAt path = .ok es) :
    ∃ m : ModuleSurface, m.ElementsOf path es := by
  obtain ⟨source, -, hsource⟩ := elementsAt_eq_ok_iff.1 h
  obtain ⟨m, -, hm⟩ := elementsOf_eq_ok_iff.1 hsource
  exact ⟨m, ModuleSurface.elementsOf_of_eq_ok hm⟩

end FileTree

/-! ## One file more -/

/-- Whether no tag occurs in both of two lists of elements. -/
def TagsApart (ds es : List Element) : Prop := ∀ d ∈ ds, ∀ e ∈ es, d.tagName ≠ e.tagName

theorem tagsApart_append_left {cs ds es : List Element} :
    TagsApart (cs ++ ds) es ↔ TagsApart cs es ∧ TagsApart ds es := by
  simp only [TagsApart, List.forall_mem_append]

theorem tagsApart_append_right {cs ds es : List Element} :
    TagsApart cs (ds ++ es) ↔ TagsApart cs ds ∧ TagsApart cs es := by
  simp only [TagsApart, List.forall_mem_append, forall_and]

theorem tagsApart_flatten_left {found : List (List Element)} {es : List Element} :
    TagsApart found.flatten es ↔ ∀ ds ∈ found, TagsApart ds es := by
  simp only [TagsApart, List.forall_mem_flatten]

theorem nodup_tagName_append {ds es : List Element} :
    ((ds ++ es).map (·.tagName)).Nodup
      ↔ (ds.map (·.tagName)).Nodup ∧ (es.map (·.tagName)).Nodup ∧ TagsApart ds es := by
  rw [List.map_append, List.nodup_append]
  simp only [TagsApart, List.forall_mem_map]

theorem tagsApart_iff_find? {found es : List Element} :
    TagsApart found es ↔ ∀ e ∈ es, found.find? (·.tagName == e.tagName) = none := by
  simp only [TagsApart, List.find?_eq_none, beq_iff_eq]
  exact ⟨fun h e he d hd => h d hd e he, fun h d hd e he => h e he d hd⟩

theorem tagsApart_singleton_iff {found : List Element} {e : Element} :
    TagsApart found [e] ↔ found.find? (·.tagName == e.tagName) = none := by
  rw [tagsApart_iff_find?, List.forall_mem_singleton]

/-- One element added to those found before, unless its tag is taken. -/
def addElement (path : Path) (found : List Element) (e : Element) :
    Except ManifestError (List Element) :=
  match found.find? (·.tagName == e.tagName) with
  | some first => .error (.conflict e.tagName first.source path)
  | none => .ok (found ++ [e])

variable {path : Path} {found es all : List Element} {e : Element} {err : ManifestError}

theorem addElements_eq_foldlM : addElements path found es = es.foldlM (addElement path) found := by
  induction es generalizing found with
  | nil => rfl
  | cons e es ih =>
    rw [List.foldlM_cons, addElements, addElement]
    cases found.find? (·.tagName == e.tagName) with
    | some first => rfl
    | none => exact ih

theorem addElement_eq_ok_iff :
    addElement path found e = .ok all ↔ TagsApart found [e] ∧ all = found ++ [e] := by
  rw [addElement, tagsApart_singleton_iff]
  cases found.find? (·.tagName == e.tagName) <;> simp [eq_comm]

/-- **Elements are added when their tags are free**, and differ from each other. -/
theorem addElements_eq_ok_iff :
    addElements path found es = .ok all
      ↔ (es.map (·.tagName)).Nodup ∧ TagsApart found es ∧ all = found ++ es := by
  rw [addElements_eq_foldlM]
  induction es using List.reverseRecOn generalizing all with
  | nil => simp [TagsApart, pure, Except.pure, eq_comm]
  | append_singleton es e ih =>
    rw [Except.foldlM_concat_eq_ok, nodup_tagName_append, tagsApart_append_right]
    simp only [ih, addElement_eq_ok_iff]
    constructor
    · rintro ⟨_, ⟨hnodup, hapart, rfl⟩, he, rfl⟩
      obtain ⟨hfound, hes⟩ := tagsApart_append_left.1 he
      exact ⟨⟨hnodup, List.nodup_singleton _, hes⟩, ⟨hapart, hfound⟩, List.append_assoc _ _ _⟩
    · rintro ⟨⟨hnodup, -, hes⟩, ⟨hapart, hfound⟩, rfl⟩
      exact ⟨_, ⟨hnodup, hapart, rfl⟩, tagsApart_append_left.2 ⟨hfound, hes⟩,
        (List.append_assoc _ _ _).symm⟩

section Builds

variable {t : FileTree} {paths : List Path}

/-- One file taken in behind the elements found before. -/
def addFile (t : FileTree) (found : List Element) (path : Path) :
    Except ManifestError (List Element) := do
  addElements path found (← t.elementsAt path)

theorem elementsOfFiles_eq_foldlM :
    elementsOfFiles t found paths = paths.foldlM (addFile t) found := by
  induction paths generalizing found with
  | nil => rfl
  | cons path paths ih =>
    rw [List.foldlM_cons, elementsOfFiles, addFile, FileTree.elementsAt]
    simp only [bind_assoc, ih]

theorem addFile_eq_ok_iff :
    addFile t found path = .ok all
      ↔ ∃ es, t.elementsAt path = .ok es ∧ TagsApart found es ∧ all = found ++ es := by
  rw [addFile, Except.bind_eq_ok]
  refine exists_congr fun es => and_congr_right fun hes => ?_
  obtain ⟨m, hm⟩ := FileTree.elementsOf_of_elementsAt hes
  rw [addElements_eq_ok_iff, and_iff_right hm.nodup]

/-- **What a build has found** when it has got through some files: the elements of each, with no tag
in two of them. -/
def Found (t : FileTree) (paths : List Path) (all : List Element) : Prop :=
  ∃ found : List (List Element), paths.map t.elementsAt = found.map .ok ∧
    found.Pairwise TagsApart ∧ all = found.flatten

theorem found_concat_iff :
    Found t (paths ++ [path]) all
      ↔ ∃ before, Found t paths before ∧ addFile t before path = .ok all := by
  simp only [Found, addFile_eq_ok_iff, List.map_append, List.map_singleton]
  constructor
  · rintro ⟨found, hmap, hpairwise, rfl⟩
    obtain ⟨before, last, rfl, hbefore, hlast⟩ := List.map_eq_append_iff.1 hmap.symm
    obtain ⟨es, rfl, hes⟩ := List.map_eq_singleton_iff.1 hlast
    rw [List.pairwise_append] at hpairwise
    refine ⟨_, ⟨before, hbefore.symm, hpairwise.1, rfl⟩, es, hes.symm, ?_, by simp⟩
    exact tagsApart_flatten_left.2 fun ds hds =>
      hpairwise.2.2 ds hds es (List.mem_singleton_self es)
  · rintro ⟨_, ⟨before, hbefore, hpairwise, rfl⟩, es, hes, hapart, rfl⟩
    refine ⟨before ++ [es], by simp [hbefore, hes], List.pairwise_append.2 ⟨hpairwise, ?_⟩, by simp⟩
    refine ⟨List.pairwise_singleton _ _, fun ds hds es' hes' => ?_⟩
    rw [List.mem_singleton.1 hes']
    exact tagsApart_flatten_left.1 hapart ds hds

/-- What has been got through has been read. -/
theorem Found.exists_readText (h : Found t paths all) (hpath : path ∈ paths) :
    ∃ source es, t.readText path = .ok source ∧ elementsOf path source = .ok es := by
  obtain ⟨found, hmap, -, -⟩ := h
  obtain ⟨es, -, hes⟩ := List.mem_map.1 (hmap ▸ List.mem_map_of_mem hpath)
  obtain ⟨source, hsource, helements⟩ := FileTree.elementsAt_eq_ok_iff.1 hes.symm
  exact ⟨source, es, hsource, helements⟩

/-- What has been found is an element of a file that has been read. -/
theorem Found.exists_elementsOf (h : Found t paths all) {e : Element} (he : e ∈ all) :
    ∃ path ∈ paths, ∃ source es, t.readText path = .ok source ∧
      elementsOf path source = .ok es ∧ e ∈ es := by
  obtain ⟨found, hmap, -, rfl⟩ := h
  obtain ⟨es, hes, he⟩ := List.mem_flatten.1 he
  have hmem : Except.ok es ∈ paths.map t.elementsAt := hmap ▸ List.mem_map_of_mem hes
  obtain ⟨path, hpath, hread⟩ := List.mem_map.1 hmem
  obtain ⟨source, hsource, helements⟩ := FileTree.elementsAt_eq_ok_iff.1 hread
  exact ⟨path, hpath, source, es, hsource, helements, he⟩

/-- **The same is found where all that was read reads the same.** -/
theorem Found.of_readText {t' : FileTree} (h : Found t paths all)
    (hread : ∀ path ∈ paths, ∀ source, t.readText path = .ok source →
      t'.readText path = .ok source) : Found t' paths all := by
  have hsame : paths.map t'.elementsAt = paths.map t.elementsAt := by
    refine List.map_congr_left fun path hpath => ?_
    obtain ⟨source, es, hsource, helements⟩ := h.exists_readText hpath
    rw [FileTree.elementsAt_eq_ok_iff.2 ⟨source, hsource, helements⟩]
    exact FileTree.elementsAt_eq_ok_iff.2 ⟨source, hread path hpath source hsource, helements⟩
  obtain ⟨found, hmap, hpairwise, hall⟩ := h
  exact ⟨found, hsame.trans hmap, hpairwise, hall⟩

theorem elementsOfFiles_eq_ok_iff : elementsOfFiles t [] paths = .ok all ↔ Found t paths all := by
  rw [elementsOfFiles_eq_foldlM]
  induction paths using List.reverseRecOn generalizing all with
  | nil => simp [Found, pure, Except.pure, eq_comm]
  | append_singleton paths path ih =>
    rw [Except.foldlM_concat_eq_ok, found_concat_iff]
    simp only [ih]

/-- **Why a file cannot be taken in** behind others, and the error that says so. -/
inductive FileTree.Refused (t : FileTree) (before : List Path) (path : Path) : ManifestError → Prop
  | unreadable {fault : FileFault} (h : t.readText path = .error fault) :
      Refused t before path (.unreadable path fault)
  | unusable {source : String} {err : ManifestError} (hread : t.readText path = .ok source)
      (h : elementsOf path source = .error err) : Refused t before path err
  /-- The tag of one of its elements is that of a file before it. -/
  | conflict {front rest : List Element} {e : Element} {first : Path}
      (hes : t.elementsAt path = .ok (front ++ e :: rest))
      (hfront : ∀ d ∈ front, ∀ p ∈ before, t.registers d.tagName p = false)
      (h : before.find? (t.registers e.tagName) = some first) :
      Refused t before path (.conflict e.tagName first path)

theorem Found.exists_of_mem {found : List (List Element)}
    (h : paths.map t.elementsAt = found.map .ok) (hes : es ∈ found) :
    ∃ path m, ModuleSurface.ElementsOf m path es := by
  have hmem : Except.ok es ∈ paths.map t.elementsAt := h ▸ List.mem_map_of_mem hes
  obtain ⟨path, -, hpath⟩ := List.mem_map.1 hmem
  exact ⟨path, FileTree.elementsOf_of_elementsAt hpath⟩

/-- **The tags of a build differ from each other, and have a hyphen.** -/
theorem Found.tags (h : Found t paths all) :
    (all.map (·.tagName)).Nodup ∧ ∀ e ∈ all, '-' ∈ e.tagName.toList := by
  obtain ⟨found, hmap, hpairwise, rfl⟩ := h
  constructor
  · rw [List.Nodup, List.pairwise_map, List.pairwise_flatten]
    refine ⟨fun es hes => ?_, hpairwise⟩
    obtain ⟨path, m, hm⟩ := Found.exists_of_mem hmap hes
    exact List.pairwise_map.1 hm.nodup
  · intro e he
    obtain ⟨es, hes, he⟩ := List.mem_flatten.1 he
    obtain ⟨path, m, hm⟩ := Found.exists_of_mem hmap hes
    exact hm.hyphen e he

namespace Manifest

variable {m : Manifest}

/-- **A build succeeds when every file has elements and no two share a tag.** -/
theorem ofFiles_eq_ok_iff : ofFiles t paths = .ok m ↔ Found t paths m.elements := by
  rw [← elementsOfFiles_eq_ok_iff, ofFiles]
  cases elementsOfFiles t [] paths with
  | error err => simp [Except.map]
  | ok all => exact ⟨fun h => by rw [← Except.ok.inj h], fun h => by rw [Except.ok.inj h]; rfl⟩

end Manifest

end Builds

end ElementBindings
