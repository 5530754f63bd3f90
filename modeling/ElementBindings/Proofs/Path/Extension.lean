import ElementBindings.Proofs.Path.Place

/-!
# Proofs/Path/Extension — file names cut at their last dot

What stands behind the last dot of a file name can be taken off (`stripExtension_ofPlace`) and put
back (`text_ofPlace_append`), and a place is left by it only at its last name.
-/

namespace ElementBindings.Path

/-! ## The last name of a place -/

theorem namedPieces_ofPlace {ns : List String} {s : String} (h : ∀ t ∈ ns ++ [s], IsFileName t) :
    (ofPlace (ns ++ [s])).namedPieces = [] :: (ns ++ [s]).map String.toList := by
  have hs : isVoid s.toList = false := (h s (by simp)).isVoid_toList
  rw [namedPieces, pieces_ofPlace (by simp) h, List.map_append, List.map_singleton]
  exact congrArg ([] :: ·) (Text.dropEnd_concat hs _)

theorem fileName?_ofPlace {ns : List String} {s : String} (h : ∀ t ∈ ns ++ [s], IsFileName t) :
    (ofPlace (ns ++ [s])).fileName? = some s := by
  rw [fileName?, namedPieces_ofPlace h, List.map_append, List.map_singleton, ← List.cons_append,
    List.getLast?_concat, Option.bind_some, Component.ofPiece?_toList (h s (by simp))]

/-- A file name, as a path, is its own last name. -/
theorem fileName?_mk {s : String} (h : IsFileName s) : (Path.mk s).fileName? = some s := by
  have hpieces : (Path.mk s).pieces = [s.toList] := by
    rw [pieces_eq_splitOn, chars, List.splitOn_eq_singleton h.slash_notMem]
  have hnamed : (Path.mk s).namedPieces = [s.toList] := by
    rw [namedPieces, hpieces]
    rfl
  rw [fileName?, hnamed, List.getLast?_singleton, Option.bind_some, Component.ofPiece?_toList h]

/-- A place whose straight path has a file name ends with it. -/
theorem exists_eq_concat_of_fileName? {ns : List String} {s : String} (h : ∀ t ∈ ns, IsFileName t)
    (hs : (ofPlace ns).fileName? = some s) : ∃ init, ns = init ++ [s] := by
  rcases List.eq_nil_or_concat' ns with rfl | ⟨init, t, rfl⟩
  · have hnone : (ofPlace []).fileName? = none := rfl
    exact absurd (hnone.symm.trans hs) (by simp)
  · rw [fileName?_ofPlace h] at hs
    exact ⟨init, by rw [Option.some.inj hs]⟩

theorem extension?_ofPlace {ns : List String} {s : String} (h : ∀ t ∈ ns ++ [s], IsFileName t) :
    (ofPlace (ns ++ [s])).extension? = (Path.mk s).extension? := by
  rw [extension?, extension?, fileName?_ofPlace h, fileName?_mk (h s (by simp))]

/-! ## Cutting -/

/-- **A name that is cut is its two parts with the dot between them.** -/
theorem eq_append_of_cutName {name stem ext : List Char} (h : cutName name = (stem, some ext)) :
    name = stem ++ '.' :: ext ∧ stem ≠ [] := by
  rw [cutName, Text.breakAt] at h
  have hname : name.reverse.takeWhile (fun c => !c == '.')
      ++ name.reverse.dropWhile (fun c => !c == '.') = name.reverse :=
    List.takeWhile_append_dropWhile
  simp only at h
  split at h
  · exact absurd h (by simp)
  · exact absurd h (by simp)
  · next d front hne hd =>
    obtain ⟨rfl, hext⟩ := Prod.mk.inj h
    obtain rfl := Option.some.inj hext
    obtain rfl : d = '.' := by
      have hhead := List.head?_dropWhile_not (fun c => !c == '.') name.reverse
      rw [hd] at hhead
      simpa using hhead
    refine ⟨?_, fun hnil => hne (List.reverse_eq_nil_iff.1 hnil)⟩
    calc name = (name.reverse.takeWhile (fun c => !c == '.') ++ '.' :: front).reverse := by
          rw [← hd, hname, List.reverse_reverse]
      _ = front.reverse ++ '.' :: (name.reverse.takeWhile fun c => !c == '.').reverse := by simp

/-- …and two such parts with a dot between them are cut there, when no dot stands in the second. -/
theorem cutName_append {stem ext : List Char} (hstem : stem ≠ []) (hext : '.' ∉ ext) :
    cutName (stem ++ '.' :: ext) = (stem, some ext) := by
  have hrev : (stem ++ '.' :: ext).reverse = ext.reverse ++ '.' :: stem.reverse := by simp
  have hfree : ∀ c ∈ ext.reverse, (!c == '.') = true := fun c hc => by
    simpa using ne_of_mem_of_not_mem (List.mem_reverse.1 hc) hext
  obtain ⟨d, ds, hds⟩ := List.exists_cons_of_ne_nil (mt List.reverse_eq_nil_iff.1 hstem)
  have htake : (stem ++ '.' :: ext).reverse.takeWhile (fun c => !c == '.') = ext.reverse := by
    rw [hrev, List.takeWhile_append_of_pos hfree, List.takeWhile_cons_of_neg (by simp),
      List.append_nil]
  have hdrop : (stem ++ '.' :: ext).reverse.dropWhile (fun c => !c == '.') = '.' :: d :: ds := by
    rw [hrev, List.dropWhile_append_of_pos hfree, List.dropWhile_cons_of_neg (by simp), hds]
  rw [cutName, Text.breakAt, htake, hdrop]
  simp only [← hds, List.reverse_reverse]

/-- A file name is one still when something is put behind it that has no slash but two characters
or more. -/
theorem IsFileName.append {s t : String} (hs : IsFileName s) (ht : '/' ∉ t.toList)
    (hlength : 2 ≤ t.length) : IsFileName (s ++ t) := by
  have hpos : 0 < s.length := by
    rw [Nat.pos_iff_ne_zero]
    exact fun h => hs.1 (by simpa using h)
  have hlong : 3 ≤ (s ++ t).length := by
    rw [String.length_append]
    omega
  refine ⟨fun h => ?_, fun h => ?_, fun h => ?_, fun h => ?_⟩
  · exact absurd (h ▸ hlong) (by decide)
  · exact absurd (h ▸ hlong) (by decide)
  · exact absurd (h ▸ hlong) (by decide)
  · rw [String.toList_append, List.mem_append] at h
    exact h.elim hs.slash_notMem ht

/-- **A file name has the extension that is put behind it.** -/
theorem extension?_append {s ext : String} (hs : IsFileName s)
    (hname : IsFileName (s ++ ("." ++ ext))) (hext : '.' ∉ ext.toList) :
    (Path.mk (s ++ ("." ++ ext))).extension? = some ext := by
  have hne : s.toList ≠ [] := fun h => hs.1 (by simpa using h)
  have htext : (s ++ ("." ++ ext)).toList = s.toList ++ '.' :: ext.toList := by
    rw [String.toList_append, String.toList_append]
    rfl
  rw [extension?, fileName?_mk hname, Option.bind_some, htext, cutName_append hne hext,
    Option.map_some, String.ofList_toList]

/-- **A file name with an extension is its stem, a dot and the extension.** -/
theorem fileName?_of_fileStem? {p : Path} {stem ext : String} (hstem : p.fileStem? = some stem)
    (hext : p.extension? = some ext) :
    p.fileName? = some (stem ++ ("." ++ ext)) ∧
      cutName (stem ++ ("." ++ ext)).toList = (stem.toList, some ext.toList) ∧ stem ≠ "" := by
  obtain ⟨name, hname, hfst⟩ := Option.map_eq_some_iff.1 hstem
  rw [extension?, hname, Option.bind_some] at hext
  obtain ⟨after, hsnd, rfl⟩ := Option.map_eq_some_iff.1 hext
  subst hfst
  have hcut : cutName name.toList = ((cutName name.toList).1, some after) := Prod.ext rfl hsnd
  obtain ⟨happend, hne⟩ := eq_append_of_cutName hcut
  have hwhole : String.ofList (cutName name.toList).1 ++ ("." ++ String.ofList after) = name := by
    refine String.toList_inj.1 ?_
    rw [String.toList_append, String.toList_append, show ".".toList = ['.'] from rfl]
    simp only [String.toList_ofList]
    exact happend.symm
  rw [hwhole, String.toList_ofList, String.toList_ofList]
  exact ⟨hname, hcut, fun hempty => hne (String.ofList_injective hempty)⟩

/-! ## Stripping -/

theorem ofPieces_eq_ofPlace {ns : List String} (hne : ns ≠ []) :
    ofPieces ([] :: ns.map String.toList) = ofPlace ns := by
  obtain ⟨s, rest, rfl⟩ := List.exists_cons_of_ne_nil hne
  rw [ofPlace, List.map_cons, ofPieces, List.intercalate_cons_cons]
  · refine congrArg Path.mk (String.toList_inj.1 ?_)
    rw [String.toList_ofList, String.toList_append, String.toList_intercalate]
    rfl
  · exact fun hc => absurd hc (by simp)

theorem stripExtension_ofPlace {ns : List String} {s : String} {stem ext : List Char}
    (h : ∀ t ∈ ns ++ [s], IsFileName t) (hcut : cutName s.toList = (stem, some ext))
    (hdot : stem ≠ ['.']) :
    (ofPlace (ns ++ [s])).stripExtension = ofPlace (ns ++ [String.ofList stem]) := by
  rw [stripExtension, fileName?_ofPlace h]
  simp only [hcut]
  rw [if_neg fun hd => hdot hd.1, namedPieces_ofPlace h, ← ofPieces_eq_ofPlace (by simp),
    List.map_append, List.map_singleton, ← List.cons_append, List.dropLast_concat, List.map_append,
    List.map_singleton, String.toList_ofList]
  rfl

/-- **Stripping a normal path cuts the last name of its place**, when what is left is a name
still. -/
theorem stripExtension_normalize {p : Path} {stem ext : String} (h : p.isAbsolute = true)
    (hstem : p.normalize.fileStem? = some stem) (hext : p.normalize.extension? = some ext)
    (hdot : stem ≠ ".") (hdots : stem ≠ "..") :
    ∃ above, p.place = above ++ [stem ++ ("." ++ ext)] ∧
      p.normalize.stripExtension = ofPlace (above ++ [stem]) ∧
      ∀ s ∈ above ++ [stem], IsFileName s := by
  obtain ⟨hname, hcut, hempty⟩ := fileName?_of_fileStem? hstem hext
  have hnames := isFileName_of_mem_place p
  rw [normalize_of_isAbsolute h] at hname ⊢
  obtain ⟨above, habove⟩ := exists_eq_concat_of_fileName? hnames hname
  rw [habove] at hnames ⊢
  have hslash : '/' ∉ stem.toList := fun hc => by
    refine (hnames _ (List.mem_append_right above List.mem_cons_self)).slash_notMem ?_
    rw [String.toList_append]
    exact List.mem_append_left _ hc
  refine ⟨above, rfl, ?_, fun s hs => ?_⟩
  · have hne : stem.toList ≠ ['.'] := fun hc => hdot (String.toList_inj.1 hc)
    rw [stripExtension_ofPlace hnames hcut hne, String.ofList_toList]
  · rcases List.mem_append.1 hs with hs | hs
    · exact hnames s (List.mem_append_left _ hs)
    · obtain rfl := List.mem_singleton.1 hs
      exact ⟨hempty, hdot, hdots, hslash⟩

theorem stripExtension_of_extension?_eq_none {p : Path} (h : p.extension? = none) :
    p.stripExtension = p := by
  rw [stripExtension]
  split
  · rfl
  · next name hname =>
    rw [extension?, hname, Option.bind_some, Option.map_eq_none_iff] at h
    split
    · rfl
    · next hcut => exact absurd (h.symm.trans (congrArg Prod.snd hcut)) (by simp)

/-- Whether the name of a file is a name still when its extension is taken off. -/
def HasModuleName (p : Path) : Prop := p.fileStem? ≠ some "." ∧ p.fileStem? ≠ some ".."

/-- **Of files with one extension, those that are one place without it are the same.** -/
theorem normalize_eq_of_place_stripExtension {p q : Path} (hp : p.isAbsolute = true)
    (hq : q.isAbsolute = true) (hext : p.normalize.extension? = q.normalize.extension?)
    (hpname : p.normalize.HasModuleName) (hqname : q.normalize.HasModuleName)
    (h : p.normalize.stripExtension.place = q.normalize.stripExtension.place) :
    p.normalize = q.normalize := by
  rw [normalize_of_isAbsolute hp, normalize_of_isAbsolute hq]
  refine congrArg ofPlace ?_
  cases hpext : p.normalize.extension? with
  | none =>
    rwa [stripExtension_of_extension?_eq_none hpext,
      stripExtension_of_extension?_eq_none (hext.symm.trans hpext), place_normalize hp,
      place_normalize hq] at h
  | some ext =>
    have hstem : ∀ {r : Path}, r.extension? = some ext → ∃ stem, r.fileStem? = some stem :=
      fun {r} hr => by
        obtain ⟨name, hname, -⟩ := Option.bind_eq_some_iff.1 hr
        exact ⟨_, by rw [fileStem?, hname, Option.map_some]⟩
    have hqext := hext.symm.trans hpext
    obtain ⟨stem, hpstem⟩ := hstem hpext
    obtain ⟨stem', hqstem⟩ := hstem hqext
    rw [HasModuleName, hpstem] at hpname
    rw [HasModuleName, hqstem] at hqname
    obtain ⟨above, hpplace, hpstrip, hpnames⟩ := stripExtension_normalize hp hpstem hpext
      (fun hdot => hpname.1 (congrArg some hdot)) fun hdots => hpname.2 (congrArg some hdots)
    obtain ⟨above', hqplace, hqstrip, hqnames⟩ := stripExtension_normalize hq hqstem hqext
      (fun hdot => hqname.1 (congrArg some hdot)) fun hdots => hqname.2 (congrArg some hdots)
    rw [hpstrip, hqstrip, place_ofPlace hpnames, place_ofPlace hqnames] at h
    obtain ⟨rfl, hlast⟩ := List.append_inj' h rfl
    rw [hpplace, hqplace, (List.cons.inj hlast).1]

/-- **Stripping an absolute path leaves it absolute.** -/
theorem isAbsolute_stripExtension {p : Path} (h : p.isAbsolute = true) :
    p.stripExtension.isAbsolute = true := by
  rw [stripExtension]
  split
  · exact h
  · next name hname =>
    split
    · exact h
    · obtain ⟨rest, hrest⟩ := namedPieces_of_isAbsolute h
      rw [fileName?, hrest] at hname
      rw [hrest]
      cases rest with
      | nil => exact absurd hname (by simp [Component.ofPiece?])
      | cons piece pieces => exact isAbsolute_ofPieces rfl

/-- What is put behind a path to a place goes to its last name. -/
theorem text_ofPlace_append (ns : List String) (s t : String) :
    (ofPlace (ns ++ [s])).text ++ t = (ofPlace (ns ++ [s ++ t])).text := by
  rw [ofPlace, ofPlace, String.append_assoc]
  refine congrArg ("/" ++ ·) ?_
  by_cases hne : ns = []
  · rw [hne, List.nil_append, List.nil_append, String.intercalate_singleton,
      String.intercalate_singleton]
  · rw [String.intercalate_append_of_ne_nil hne (by simp),
      String.intercalate_append_of_ne_nil hne (by simp), String.intercalate_singleton,
      String.intercalate_singleton, String.append_assoc]

end ElementBindings.Path
