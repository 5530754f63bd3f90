import ElementBindings.Proofs.Files.Access
import Mathlib.Data.List.Perm.Basic

/-!
# Proofs/Files/Creation — trees made step by step

A tree is made by making directories and writing files, one after the other.  What stands at a place
afterwards is what the steps of that place have made, whichever came first
(`kindAt?_create`), so the same steps in another order make a tree with the same files in
the same directories (`kindAt?_create_of_perm`).
-/

namespace ElementBindings.FileTree

variable {t t' u u' : FileTree} {q d : List String} {name : String}

/-! ## Files and directories -/

/-- What kind of thing stands at a place: a directory, or something else. -/
def kindAt? (t : FileTree) (q : List String) : Option Bool :=
  (t.at? q).map FileNode.isDirectory

theorem kindAt?_eq_some_true_iff : t.kindAt? q = some true ↔ t.HasDirectory q := by
  rw [kindAt?, Option.map_eq_some_iff]
  constructor
  · rintro ⟨n, hn, hdir⟩
    cases n with
    | file content => exact absurd hdir (by simp [FileNode.isDirectory])
    | link target => exact absurd hdir (by simp [FileNode.isDirectory])
    | directory entries => exact ⟨entries, hn⟩
  · rintro ⟨entries, hdir⟩
    exact ⟨_, hdir, rfl⟩

/-- Without links what is no directory is a file. -/
theorem Linkless.kindAt?_eq_some_false_iff (ht : t.Linkless) :
    t.kindAt? q = some false ↔ (t.fileAt? q).isSome = true := by
  rcases ht.cases q with hnone | ⟨entries, hdir⟩ | ⟨content, hfile⟩
  · simp [kindAt?, fileAt?, hnone]
  · simp [kindAt?, fileAt?, hdir, FileNode.isDirectory]
  · simp [kindAt?, fileAt?, hfile, FileNode.isDirectory]

/-- Trees without links that have the same kinds of things have all that the other one has. -/
theorem Linkless.grows_of_kindAt? (ht : t.Linkless) (ht' : t'.Linkless)
    (h : ∀ q, t'.kindAt? q = t.kindAt? q) : t.Grows t' where
  hasDirectory hdir := by
    rw [← kindAt?_eq_some_true_iff] at hdir ⊢
    rw [h, hdir]
  isSome_fileAt? hfile := by
    rw [← ht.kindAt?_eq_some_false_iff] at hfile
    rw [← ht'.kindAt?_eq_some_false_iff, h, hfile]

/-- **Putting a leaf changes the kind of one place.** -/
theorem Fits.kindAt?_put (h : t.Fits d name) {node : FileNode}
    (hfree : t.at? (d ++ [name]) = none ∨ ∃ old, t.at? (d ++ [name]) = some (.file old))
    (hleaf : ∀ s rest, node.at? (s :: rest) = none) (q : List String) :
    (t.put (d ++ [name]) node).kindAt? q
      = if q = d ++ [name] then some node.isDirectory else t.kindAt? q := by
  rw [kindAt?, kindAt?]
  split
  · next hq =>
    obtain ⟨entries, hdir⟩ := h.hasDirectory
    have hput : (t.put (d ++ [name]) node).at? (d ++ [name]) = some node :=
      FileNode.at?_put_append hdir name node []
    rw [hq, hput, Option.map_some]
  · next hq =>
    rcases h.at?_put_cases hfree hleaf q with hsame | ⟨heq, -⟩ | ⟨entries, s, below, hdir, -, hput⟩
    · rw [hsame]
    · exact absurd heq hq
    · rw [hput, hdir]
      rfl

/-! ## One step -/

/-- **A step in which a tree comes to be**: a directory is made, unless it is there already, or a
file is written. -/
inductive Creation where
  | directory (p : Path)
  | file (p : Path) (content : ByteArray)

namespace Creation

/-- The place that a step is about. -/
def place : Creation → List String
  | directory p => p.place
  | file p _ => p.place

/-- Whether a step makes a directory. -/
def isDirectory : Creation → Bool
  | directory _ => true
  | file .. => false

/-- The tree behind a step. -/
def run (t : FileTree) : Creation → Except FileFault FileTree
  | directory p => t.ensureDirectory p
  | file p content => t.write p content

end Creation

/-- **What making a file or a directory does**: where nothing or the same kind of thing has been it
stands afterwards, and every other place is left. -/
structure Makes (place : List String) (kind : Bool) (t t' : FileTree) : Prop where
  same : ∀ old, t.kindAt? place = some old → old = kind
  kindAt?_eq : ∀ q, t'.kindAt? q = if q = place then some kind else t.kindAt? q

/-- What is there already is made by doing nothing. -/
theorem makes_self {kind : Bool} (h : t.kindAt? q = some kind) : Makes q kind t t where
  same _ hold := (Option.some.inj (h.symm.trans hold)).symm
  kindAt?_eq q' := by
    split
    · next hq => rw [hq, h]
    · rfl

theorem makes_of_makeDirectory {p : Path} (h : t.makeDirectory p = .ok t') (ht : t.Linkless) :
    Makes p.place true t t' := by
  obtain ⟨-, d, name, hleads, rfl⟩ := make_eq_ok h ht
  obtain ⟨hplace, hfits, hnone⟩ := fits_of_leads_absent hleads
  rw [← hplace]
  exact ⟨fun old hold => absurd hold (by simp [kindAt?, hnone]),
    hfits.kindAt?_put (Or.inl hnone) fun _ _ => rfl⟩

theorem makes_of_write {p : Path} {content : ByteArray} (h : t.write p content = .ok t')
    (ht : t.Linkless) : Makes p.place false t t' := by
  obtain ⟨hwritable, rfl⟩ := (write_eq_ok_iff ht).1 h
  obtain ⟨d, name, hplace, hfits⟩ := hwritable.exists_fits ht
  have hfree := ht.free_of_not_hasDirectory hwritable.not_hasDirectory
  rw [hplace] at hfree ⊢
  refine ⟨fun old hold => ?_, hfits.kindAt?_put hfree fun _ _ => rfl⟩
  rcases hfree with hnone | ⟨_, hfile⟩
  · exact absurd hold (by simp [kindAt?, hnone])
  · rw [kindAt?, hfile] at hold
    exact (Option.some.inj hold).symm

/-- **A step makes what it says.** -/
theorem Creation.makes_run {c : Creation} (h : c.run t = .ok t') (ht : t.Linkless) :
    Makes c.place c.isDirectory t t' := by
  cases c with
  | directory p =>
    rw [run, ensureDirectory] at h
    split at h
    · next hmade =>
      obtain rfl := Except.ok.inj h
      exact makes_of_makeDirectory hmade ht
    split at h
    · next hdir =>
      obtain rfl := Except.ok.inj h
      exact makes_self (kindAt?_eq_some_true_iff.2 ((isDirectory_iff ht).1 hdir).2)
    · exact absurd h (by simp)
  | file p content => exact makes_of_write h ht

theorem Creation.edits_run {c : Creation} (h : c.run t = .ok t') (ht : t.Linkless) :
    Edits {c.place} t t' := by
  cases c with
  | directory p => exact (ensureDirectory_eq_ok h ht).1.mono (Set.empty_subset _)
  | file p content => exact write_edits h ht

/-! ## Any number of steps -/

/-- The tree behind some steps, one after the other. -/
def create (t : FileTree) (steps : List Creation) : Except FileFault FileTree :=
  steps.foldlM Creation.run t

theorem create_cons_eq_ok_iff {c : Creation} {cs : List Creation} :
    t.create (c :: cs) = .ok t' ↔ ∃ u, c.run t = .ok u ∧ u.create cs = .ok t' := by
  rw [create, List.foldlM_cons, Except.bind_eq_ok]
  rfl

/-- **What a disk can hold it can hold behind any steps.** -/
theorem plain_create {steps : List Creation} (h : t.create steps = .ok t') (ht : t.Plain) :
    t'.Plain := by
  induction steps generalizing t with
  | nil => exact Except.ok.inj h ▸ ht
  | cons c cs ih =>
    obtain ⟨u, hu, h⟩ := create_cons_eq_ok_iff.1 h
    exact ih h ((Creation.edits_run hu ht.linkless).plain ht)

/-- **What the steps of a place have made stands there**; at any other place everything is as it was
before. -/
theorem kindAt?_create {steps : List Creation} (h : t.create steps = .ok t') (ht : t.Plain) :
    (∀ c ∈ steps, t'.kindAt? c.place = some c.isDirectory) ∧
    ∀ q, (∀ c ∈ steps, c.place ≠ q) → t'.kindAt? q = t.kindAt? q := by
  -- the last step decides: each earlier one of its place has made the same kind of thing
  induction steps using List.reverseRecOn generalizing t' with
  | nil =>
    obtain rfl := Except.ok.inj h
    exact ⟨by simp, fun q _ => rfl⟩
  | append_singleton cs c ih =>
    rw [create, Except.foldlM_concat_eq_ok] at h
    obtain ⟨u, hu, h⟩ := h
    obtain ⟨hmade, hleft⟩ := ih hu
    obtain ⟨hsame, hrun⟩ := Creation.makes_run h (plain_create hu ht).linkless
    refine ⟨fun c' hc' => ?_, fun q hq => ?_⟩
    · rw [hrun]
      split
      · next hplace =>
        rcases List.mem_append.1 hc' with hc' | hc'
        · rw [hsame c'.isDirectory (hplace ▸ hmade c' hc')]
        · rw [List.mem_singleton.1 hc']
      · next hplace =>
        rcases List.mem_append.1 hc' with hc' | hc'
        · exact hmade c' hc'
        · exact absurd (congrArg Creation.place (List.mem_singleton.1 hc')) hplace
    · rw [hrun, if_neg (Ne.symm (hq c (by simp))), hleft q fun c' hc' => hq c' (by simp [hc'])]

/-- **The order in which a tree is made shows nowhere in it**, but for the order of its entries and
the contents of its files. -/
theorem kindAt?_create_of_perm {steps steps' : List Creation} (hperm : steps.Perm steps')
    (h : t.create steps = .ok u) (h' : t.create steps' = .ok u') (ht : t.Plain)
    (q : List String) : u'.kindAt? q = u.kindAt? q := by
  obtain ⟨hmade, hleft⟩ := kindAt?_create h ht
  obtain ⟨hmade', hleft'⟩ := kindAt?_create h' ht
  by_cases hq : ∃ c ∈ steps, c.place = q
  · obtain ⟨c, hc, rfl⟩ := hq
    rw [hmade c hc, hmade' c (hperm.mem_iff.1 hc)]
  · have hne : ∀ c ∈ steps, c.place ≠ q := fun c hc hcq => hq ⟨c, hc, hcq⟩
    rw [hleft q hne, hleft' q fun c hc => hne c (hperm.mem_iff.2 hc)]

end ElementBindings.FileTree
