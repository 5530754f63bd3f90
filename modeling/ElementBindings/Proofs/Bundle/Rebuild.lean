import ElementBindings.Proofs.Bundle.Session
import ElementBindings.Proofs.Element.Discovery
import ElementBindings.Proofs.Glob.Scan

/-!
# Proofs/Bundle/Rebuild — building where something has been built

A build reads its sources only: behind edits of other files a scan finds the same sources, which
read the same (`Config.scan_of_edits`), so it gives the same module (`Config.generate_of_edits`).
-/

namespace ElementBindings

variable {t t' : FileTree} {outs : Set (List String)}

/-! ## Sources -/

namespace Config

variable {c : Config} {paths : List Path} {m : GeneratedModule}

/-- Whether a scan looks for a source at a place: below the base of the pattern, under names that
it selects. -/
def IsSourcePlace (c : Config) (place : List String) : Prop :=
  ∃ rel, place = (c.root.join c.glob.base).place ++ rel ∧ c.glob.selectsNames rel = true

/-- The elements of a project are those of the files that a scan finds. -/
theorem manifest_eq_ok_iff {manifest : Manifest} :
    c.manifest t = .ok manifest ↔
      ∃ paths, c.glob.scan t c.root = .ok paths ∧ Manifest.ofFiles t paths = .ok manifest := by
  rw [Config.manifest, Except.bind_eq_ok]
  simp only [Except.mapError_eq_ok]

/-- **A scan finds the same sources behind edits of other files**, and they read the same. -/
theorem scan_of_edits (hscan : c.glob.scan t c.root = .ok paths) (ht : t.Plain)
    (hedits : FileTree.Edits outs t t') (houts : ∀ place ∈ outs, ¬c.IsSourcePlace place) :
    c.glob.scan t' c.root = .ok paths ∧
      ∀ path ∈ paths, ∀ source, t.readText path = .ok source → t'.readText path = .ok source := by
  constructor
  · refine SourceGlob.scan_of_edits hscan ht hedits fun rel hrel => ?_
    exact Bool.eq_false_iff.2 fun hselected => houts _ hrel ⟨rel, rfl, hselected⟩
  · intro path hpath source hread
    obtain ⟨rel, hplace, hselected⟩ := SourceGlob.exists_place_of_mem_scan hscan ht hpath
    have hout : path.place ∉ outs := fun hout => houts _ hout ⟨rel, hplace, hselected⟩
    exact FileTree.readText_of_grows hread hedits.grows ht.linkless
      (hedits.linkless ht.linkless) (hedits.fileAt?_eq hout)

/-- **A build gives the same module behind edits of other files.** -/
theorem generate_of_edits (h : c.generate t = .ok m) (ht : t.Plain)
    (hedits : FileTree.Edits outs t t') (houts : ∀ place ∈ outs, ¬c.IsSourcePlace place) :
    c.generate t' = .ok m := by
  obtain ⟨manifest, hmanifest, hgenerated⟩ := generate_eq_ok_iff.1 h
  obtain ⟨paths, hscan, hfiles⟩ := manifest_eq_ok_iff.1 hmanifest
  obtain ⟨hscan', hread⟩ := scan_of_edits hscan ht hedits houts
  have hfound := (Manifest.ofFiles_eq_ok_iff.1 hfiles).of_readText hread
  exact generate_eq_ok_iff.2 ⟨manifest,
    manifest_eq_ok_iff.2 ⟨paths, hscan', Manifest.ofFiles_eq_ok_iff.2 hfound⟩, hgenerated⟩

end Config

end ElementBindings
