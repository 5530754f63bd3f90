import ElementBindings.Config.Basic
import ElementBindings.Proofs.Path.Place

/-!
# Proofs/Config/Accepted — what holds of every configuration made from options

A configuration is accepted when some options make it at some root, seen from a working directory
that is absolute.  Its root is absolute then, and its virtual module has a directory, which is
absolute too; the declarations find the same directory (`parent?_virtualLocation`).
-/

namespace ElementBindings

/-! ## Anchoring -/

namespace Path

theorem isAbsolute_foldl_join {start : Path} (h : start.isAbsolute = true) (ps : List Path) :
    (ps.foldl join start).isAbsolute = true := by
  induction ps generalizing start with
  | nil => exact h
  | cons p ps ih => exact ih (isAbsolute_join h p)

/-- **A path made absolute is absolute.** -/
theorem isAbsolute_of_anchor? {here p q : Path} (hhere : here.isAbsolute = true)
    (h : anchor? here p = some q) : q.isAbsolute = true := by
  rw [anchor?] at h
  split at h
  · exact absurd h (by simp)
  · obtain rfl := Option.some.inj h
    have hstart : ∀ twoSlashes : Bool, (if twoSlashes then (⟨"//"⟩ : Path)
        else if p.isAbsolute then ⟨"/"⟩ else here).isAbsolute = true := by
      intro twoSlashes
      split
      · rfl
      · split
        · rfl
        · exact hhere
    by_cases hslash : p.chars.getLast? = some '/'
    · rw [if_pos hslash]
      exact isAbsolute_join (isAbsolute_foldl_join (hstart _) _) _
    · rw [if_neg hslash]
      exact isAbsolute_foldl_join (hstart _) _

end Path

/-! ## Acceptance -/

namespace Config

/-- **Whether a configuration is made from options**, whatever they are and wherever the working
directory lies. -/
def Accepted (c : Config) : Prop :=
  ∃ (here root : Path) (o : Options) (lookup : Option (String → Option String)),
    here.isAbsolute = true ∧ ofOptions here root o lookup = .ok c

/-- What options pass when they make a configuration, and what it takes from them. -/
theorem ofOptions_eq_ok_iff {here root : Path} {o : Options}
    {lookup : Option (String → Option String)} {c : Config} :
    ofOptions here root o lookup = .ok c
      ↔ ∃ anchored glob mode, Path.anchor? here root = some anchored ∧
        SourceGlob.read o.glob = .ok glob ∧ o.virtualLocation.fileStem?.isSome = true ∧
        modeOf o lookup = .ok mode ∧
        c = ⟨anchored, glob, o.lead, o.policy, o.outDir, o.virtualLocation, mode⟩ := by
  constructor
  · intro h
    rw [ofOptions] at h
    split at h
    · exact absurd h (by simp)
    · next anchored hroot =>
      split at h
      · exact absurd h (by simp)
      · next glob hglob =>
        split at h
        · exact absurd h (by simp)
        · next hstem =>
          cases hmode : modeOf o lookup with
          | error e => exact absurd (hmode ▸ h) (by simp [Except.map])
          | ok mode =>
            rw [hmode] at h
            exact ⟨anchored, glob, mode, hroot, hglob,
              by simpa [Option.isSome_iff_ne_none] using hstem, rfl, (Except.ok.inj h).symm⟩
  · rintro ⟨anchored, glob, mode, hroot, hglob, hstem, hmode, rfl⟩
    have hsome : ¬o.virtualLocation.fileStem?.isNone = true := by
      rw [Option.isNone_iff_eq_none]
      exact Option.isSome_iff_ne_none.1 hstem
    rw [ofOptions, hroot, hglob, hmode]
    exact if_neg hsome

/-- **Options that pass every check make an accepted configuration.** -/
theorem exists_accepted {here root anchored : Path} {o : Options}
    {lookup : Option (String → Option String)} {mode : OutputMode}
    (hhere : here.isAbsolute = true) (hroot : Path.anchor? here root = some anchored)
    (hglob : (SourceGlob.read o.glob).isOk = true)
    (hstem : o.virtualLocation.fileStem?.isSome = true) (hmode : modeOf o lookup = .ok mode) :
    ∃ glob, Accepted ⟨anchored, glob, o.lead, o.policy, o.outDir, o.virtualLocation, mode⟩ := by
  cases hread : SourceGlob.read o.glob with
  | error e => exact absurd hglob (by rw [hread]; simp [Except.isOk, Except.toBool])
  | ok glob =>
    exact ⟨glob, here, root, o, lookup, hhere,
      ofOptions_eq_ok_iff.2 ⟨anchored, glob, mode, hroot, hread, hstem, hmode, rfl⟩⟩

variable {c : Config}

theorem Accepted.isAbsolute_root (h : c.Accepted) : c.root.isAbsolute = true := by
  obtain ⟨here, root, o, lookup, hhere, hc⟩ := h
  obtain ⟨anchored, glob, mode, hroot, -, -, -, rfl⟩ := ofOptions_eq_ok_iff.1 hc
  exact Path.isAbsolute_of_anchor? hhere hroot

theorem Accepted.isAbsolute_outDir (h : c.Accepted) :
    c.declarationTarget.outDir.isAbsolute = true := Path.isAbsolute_join h.isAbsolute_root _

theorem Accepted.named_virtualLocation (h : c.Accepted) : c.virtualLocation.named ≠ [] := by
  obtain ⟨here, root, o, lookup, -, hc⟩ := h
  obtain ⟨anchored, glob, mode, -, -, hstem, -, rfl⟩ := ofOptions_eq_ok_iff.1 hc
  rw [Path.fileStem?, Option.isSome_map] at hstem
  exact Path.named_ne_nil_of_fileName? hstem

/-- **The virtual module of an accepted configuration has a directory**, the same one for the
wrappers and for their declarations. -/
theorem Accepted.parent?_virtualLocation (h : c.Accepted) :
    (c.root.join c.virtualLocation).parent? = some c.virtualDir := by
  have hnamed : (c.root.join c.virtualLocation).named ≠ [] := by
    cases hv : c.virtualLocation.isAbsolute with
    | true => rw [Path.join_of_isAbsolute hv]; exact h.named_virtualLocation
    | false =>
      rw [Path.named_join hv]
      exact List.append_ne_nil_of_right_ne_nil _ h.named_virtualLocation
  obtain ⟨dir, hdir⟩ := Option.isSome_iff_exists.1 (Path.isSome_parent?_of_named_ne_nil hnamed)
  rw [virtualDir, virtualDirectory, hdir, Option.getD_some]

theorem Accepted.isAbsolute_virtualDir (h : c.Accepted) : c.virtualDir.isAbsolute = true :=
  Path.isAbsolute_of_parent? (Path.isAbsolute_join h.isAbsolute_root _) h.parent?_virtualLocation

end Config

end ElementBindings
