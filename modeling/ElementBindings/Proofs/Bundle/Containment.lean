import ElementBindings.Proofs.Bundle.Resolve

/-!
# Proofs/Bundle/Containment — what relative ids can lead to

An id is checked before its file gets the extension of a source.  Below the source root that makes
no difference (`isWithin_withSourceExtension_iff`); at the root itself the extension goes to the
name of the root, and the file lies beside it.  So every file that an id stands for is a source
below the source root but in that one case (`resolveId?_contained`), which does occur
(`resolveId?_beside_sourceRoot`).
-/

namespace ElementBindings

/-- Whether a path has the extension of a source. -/
def Path.HasSourceExtension (p : Path) : Prop :=
  p.extension? = some "ts" ∨ p.extension? = some "tsx"

instance (p : Path) : Decidable p.HasSourceExtension := inferInstanceAs (Decidable (_ ∨ _))

/-! ## Files of places -/

theorem withSourceExtension_of_hasSourceExtension {p : Path} (h : p.HasSourceExtension) :
    withSourceExtension p = p := by
  rw [withSourceExtension]
  split
  · rfl
  · rfl
  · next hts htsx => exact absurd h (not_or.2 ⟨hts, htsx⟩)

theorem isFileName_ts {s : String} (h : Path.IsFileName s) : Path.IsFileName (s ++ ".ts") :=
  h.append (by decide) (by decide)

theorem extension?_ts {s : String} (h : Path.IsFileName s) :
    (Path.mk (s ++ ".ts")).extension? = some "ts" := by
  have hdot : ".ts" = "." ++ "ts" := by decide
  have hname := isFileName_ts h
  rw [hdot] at hname ⊢
  exact Path.extension?_append h hname (by decide)

/-- The names of a place whose last one gets the extension of a source. -/
theorem isFileName_of_mem_concat_ts {above : List String} {s : String}
    (h : ∀ t ∈ above ++ [s], Path.IsFileName t) : ∀ t ∈ above ++ [s ++ ".ts"], Path.IsFileName t :=
  fun t ht => by
    rcases List.mem_append.1 ht with ht | ht
    · exact h t (List.mem_append_left _ ht)
    · obtain rfl := List.mem_singleton.1 ht
      exact isFileName_ts (h s (by simp))

/-- A place that gets an extension does so at its last name; the root gets a name. -/
theorem withSourceExtension_ofPlace_concat {above : List String} {s : String}
    (h : ∀ t ∈ above ++ [s], Path.IsFileName t)
    (hext : ¬(Path.ofPlace (above ++ [s])).HasSourceExtension) :
    withSourceExtension (Path.ofPlace (above ++ [s])) = Path.ofPlace (above ++ [s ++ ".ts"]) := by
  rw [Path.HasSourceExtension, Path.extension?_ofPlace h, not_or] at hext
  exact withSourceExtension_ofPlace h hext.1 hext.2

/-- **The file of a place is a path without detours**, whatever the place. -/
theorem exists_withSourceExtension_ofPlace {ns : List String} (h : ∀ s ∈ ns, Path.IsFileName s) :
    ∃ ms, (∀ s ∈ ms, Path.IsFileName s) ∧
      withSourceExtension (Path.ofPlace ns) = Path.ofPlace ms := by
  by_cases hext : (Path.ofPlace ns).HasSourceExtension
  · exact ⟨ns, h, withSourceExtension_of_hasSourceExtension hext⟩
  · rcases List.eq_nil_or_concat' ns with rfl | ⟨above, s, rfl⟩
    · exact ⟨[".ts"], by simp [Path.IsFileName], by decide⟩
    · exact ⟨_, isFileName_of_mem_concat_ts h, withSourceExtension_ofPlace_concat h hext⟩

/-- **The file of a place below a directory is a source below it**, unless the place is the
directory itself and has no extension of a source. -/
theorem isWithin_withSourceExtension_iff {dir : Path} (hdir : dir.isAbsolute = true)
    {ns : List String} (h : ∀ s ∈ ns, Path.IsFileName s) (hbelow : dir.place <+: ns) :
    (withSourceExtension (Path.ofPlace ns)).isWithin dir = true ∧
        (withSourceExtension (Path.ofPlace ns)).HasSourceExtension
      ↔ ns ≠ dir.place ∨ (Path.ofPlace ns).HasSourceExtension := by
  by_cases hext : (Path.ofPlace ns).HasSourceExtension
  · rw [withSourceExtension_of_hasSourceExtension hext,
      Path.isWithin_iff (Path.isAbsolute_ofPlace _) hdir, Path.place_ofPlace h]
    exact iff_of_true ⟨hbelow, hext⟩ (Or.inr hext)
  rw [or_iff_left hext]
  rcases List.eq_nil_or_concat' ns with rfl | ⟨above, s, rfl⟩
  · refine iff_of_false (fun hfile => absurd hfile.2 (by decide)) ?_
    exact not_not.2 (List.prefix_nil.1 hbelow).symm
  · have hts : (Path.ofPlace (above ++ [s ++ ".ts"])).HasSourceExtension := by
      rw [Path.HasSourceExtension, Path.extension?_ofPlace (isFileName_of_mem_concat_ts h)]
      exact Or.inl (extension?_ts (h s (by simp)))
    rw [withSourceExtension_ofPlace_concat h hext, and_iff_left hts,
      Path.isWithin_iff (Path.isAbsolute_ofPlace _) hdir,
      Path.place_ofPlace (isFileName_of_mem_concat_ts h)]
    rcases List.prefix_concat_iff.1 hbelow with heq | hinner
    · -- the directory itself: what stands beside it is no longer below it
      refine iff_of_false (fun hwithin => ?_) (not_not.2 heq.symm)
      rw [heq] at hwithin
      have hlast := (List.append_inj' (hwithin.eq_of_length (by simp)) rfl).2
      have hlength := congrArg String.length (List.cons.inj hlast).1
      rw [String.length_append] at hlength
      exact absurd hlength (by simp)
    · refine iff_of_true (hinner.trans (List.prefix_append _ _)) fun heq => ?_
      have hlength := hinner.length_le
      rw [← heq, List.length_append, List.length_singleton] at hlength
      omega

namespace Config

variable {c : Config}

/-! ## Ids -/

/-- **What an id stands for does not leave the source root**, but for one case.  Across packages no
id but that of the virtual module stands for anything.  In one package, what it stands for is an
absolute path without detours; this is a source below the source root exactly if the id does not
lead to the source root itself, or if the source root is named like a source. -/
theorem resolveId?_contained (h : c.Accepted) {id : String} (hid : id ≠ virtualModuleId) :
    (∀ watchDist lookup, c.mode = .crossPackage watchDist lookup → c.resolveId? id = none) ∧
    ∀ sourcePath file, c.mode = .samePackage sourcePath → c.resolveId? id = some file →
      (Path.mk file).isAbsolute = true ∧ (Path.mk file).normalize = ⟨file⟩ ∧
      ((Path.mk file).isWithin (c.root.join sourcePath) = true ∧ (Path.mk file).HasSourceExtension
        ↔ (c.virtualDir.join ⟨id⟩).normalize ≠ (c.root.join sourcePath).normalize ∨
          (c.root.join sourcePath).normalize.HasSourceExtension) := by
  refine ⟨fun watchDist lookup hmode => ?_, fun sourcePath file hmode hfile => ?_⟩
  · rw [resolveId?, if_neg hid, sourceRoot?, hmode]
  have hroot := Path.isAbsolute_join h.isAbsolute_root sourcePath
  have hjoin := Path.isAbsolute_join h.isAbsolute_virtualDir ⟨id⟩
  have hnames := Path.isFileName_of_mem_place (c.virtualDir.join ⟨id⟩)
  rw [h.resolveId?_samePackage hmode hid] at hfile
  split at hfile
  · next hbelow =>
    obtain ⟨ms, hms, hplace⟩ := exists_withSourceExtension_ofPlace hnames
    have hiff := isWithin_withSourceExtension_iff hroot hnames hbelow.2
    generalize withSourceExtension _ = p at hfile hplace hiff
    obtain rfl := Option.some.inj hfile
    subst hplace
    refine ⟨Path.isAbsolute_ofPlace ms, ?_, hiff.trans ?_⟩
    · exact (Path.normalize_of_isAbsolute (Path.isAbsolute_ofPlace ms)).trans
        (congrArg Path.ofPlace (Path.place_ofPlace hms))
    · rw [Path.normalize_of_isAbsolute hjoin, Path.normalize_of_isAbsolute hroot]
      by_cases heq : (c.virtualDir.join ⟨id⟩).place = (c.root.join sourcePath).place
      · rw [heq]
        exact or_congr (iff_of_false (fun hne => hne rfl) fun hne => hne rfl) Iff.rfl
      · refine iff_of_true (Or.inl heq) (Or.inl fun hpath => heq ?_)
        rw [← Path.place_ofPlace hnames, hpath,
          Path.place_ofPlace (Path.isFileName_of_mem_place (c.root.join sourcePath))]
  · exact absurd hfile (by simp)

/-- An id that climbs out of the source root and back, with a dot in the name it ends with. -/
theorem resolveId?_contained_climbing :
    ∃ c : Config, c.Accepted ∧ c.mode = .samePackage ⟨"lib/../src"⟩ ∧
      c.resolveId? "../../src/.//tabs/../tab.list" = some "/work/app/src/tab.list.ts" ∧
      (Path.mk "/work/app/src/tab.list.ts").isWithin (c.root.join ⟨"lib/../src"⟩) = true ∧
      (Path.mk "/work/app/src/tab.list.ts").HasSourceExtension := by
  obtain ⟨glob, hc⟩ := exists_accepted
    (o := ⟨"src/**/*.ts", "x-", .strict, ⟨"dist"⟩, ⟨"src/react/index.ts"⟩, true,
      some ⟨"lib/../src"⟩, none, none⟩)
    (show (Path.mk "/work").isAbsolute = true by decide +kernel)
    (show Path.anchor? ⟨"/work"⟩ ⟨"app"⟩ = some ⟨"/work/app"⟩ by decide +kernel)
    (by decide +kernel) (by decide +kernel)
    (show modeOf _ none = .ok (.samePackage ⟨"lib/../src"⟩) from rfl)
  have hid : "../../src/.//tabs/../tab.list" ≠ virtualModuleId := by decide
  have hdir : virtualDirectory ⟨"/work/app"⟩ ⟨"src/react/index.ts"⟩ = ⟨"/work/app/src/react"⟩ := by
    decide +kernel
  obtain ⟨-, hcontained⟩ := resolveId?_contained hc hid
  have hfile := hc.resolveId?_samePackage rfl hid
  rw [virtualDir] at hcontained hfile
  simp only [hdir] at hcontained hfile
  replace hfile := hfile.trans
    (show _ = some "/work/app/src/tab.list.ts" by decide +kernel)
  obtain ⟨-, -, hiff⟩ := hcontained _ _ rfl hfile
  obtain ⟨hwithin, hext⟩ := hiff.2 (Or.inl (by decide +kernel))
  exact ⟨_, hc, rfl, hfile, hwithin, hext⟩

/-- **The source root itself, by an id of one dot**: the file that it stands for lies beside the
source root. -/
theorem resolveId?_beside_sourceRoot :
    ∃ c : Config, c.Accepted ∧ c.mode = .samePackage ⟨"src"⟩ ∧
      c.resolveId? "." = some "/work/src.ts" ∧
      (Path.mk "/work/src.ts").isWithin (c.root.join ⟨"src"⟩) = false := by
  obtain ⟨glob, hc⟩ := exists_accepted
    (o := ⟨"src/**/*.ts", "x-", .strict, ⟨"dist"⟩, ⟨"src/react.ts"⟩, true, some ⟨"src"⟩, none,
      none⟩)
    (show (Path.mk "/").isAbsolute = true by decide +kernel)
    (show Path.anchor? ⟨"/"⟩ ⟨"work"⟩ = some ⟨"/work"⟩ by decide +kernel)
    (by decide +kernel) (by decide +kernel)
    (show modeOf _ none = .ok (.samePackage ⟨"src"⟩) from rfl)
  have hdir : virtualDirectory ⟨"/work"⟩ ⟨"src/react.ts"⟩ = ⟨"/work/src"⟩ := by decide +kernel
  have hfile := hc.resolveId?_samePackage rfl (show "." ≠ virtualModuleId by decide)
  rw [virtualDir] at hfile
  simp only [hdir] at hfile
  replace hfile := hfile.trans (show _ = some "/work/src.ts" by decide +kernel)
  refine ⟨_, hc, rfl, hfile, ?_⟩
  show (Path.mk "/work/src.ts").isWithin (Path.join ⟨"/work"⟩ ⟨"src"⟩) = false
  decide +kernel

end Config

end ElementBindings
