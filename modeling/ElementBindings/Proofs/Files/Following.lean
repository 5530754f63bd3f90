import ElementBindings.Files.Access
import ElementBindings.Proofs.Files.Edits
import ElementBindings.Proofs.Path.Place

/-!
# Proofs/Files/Following — where a path leads in a tree without links

Without links a path is followed along its text: every name but the last has to be there
(`Leads`, `follow_eq_ok_iff`), and the spot that is reached is the place of the path
(`Leads.place_eq`).  A path that can be followed can still be followed when the tree has grown
(`Leads.of_grows`).
-/

namespace ElementBindings

/-! ## The names of a path -/

/-- A text with empty pieces only holds nothing but separators. -/
theorem Text.all_sep_of_splitOn {sep : Char → Bool} {cs : List Char}
    (h : ∀ piece ∈ splitOn sep cs, piece = []) : ∀ c ∈ cs, sep c = true := by
  induction cs with
  | nil => simp
  | cons c cs ih =>
    rw [splitOn] at h
    split at h
    · next hc =>
      rw [List.forall_mem_cons] at h ⊢
      exact ⟨hc, ih h.2⟩
    · exact absurd (h _ List.mem_cons_self) (List.cons_ne_nil _ _)

namespace Path

/-- Slashes at the end add no pieces but empty ones. -/
theorem filter_splitOn_append_slashes (cs : List Char) {slashes : List Char}
    (h : ∀ c ∈ slashes, (c == '/') = true) :
    ((cs ++ slashes).splitOn '/').filter (!·.isEmpty) = (cs.splitOn '/').filter (!·.isEmpty) := by
  induction slashes generalizing cs with
  | nil => rw [List.append_nil]
  | cons c slashes ih =>
    obtain rfl : c = '/' := by simpa using h c List.mem_cons_self
    have hrest := ih [] fun c hc => h c (List.mem_cons_of_mem _ hc)
    rw [List.nil_append] at hrest
    rw [List.splitOn_append_cons_self, List.filter_append, hrest]
    simp

/-- **The names of a path are those of the path without the slashes at its end**, and a `.` if there
are any. -/
theorem names_eq_append (p : Path) :
    p.names = p.dropSlashes.names ++ if p.endsWithSlash then ["."] else [] := by
  obtain ⟨slashes, hchars, hslashes⟩ := Text.dropEnd_append (· == '/') p.chars
  have hdrop : p.dropSlashes.chars = Text.dropEnd (· == '/') p.chars := String.toList_ofList
  have hlast : p.dropSlashes.chars.getLast? ≠ some '/' := by
    rw [hdrop, Text.dropEnd, List.getLast?_reverse]
    intro h
    have := List.head?_dropWhile_not (· == '/') p.chars.reverse
    rw [h] at this
    exact absurd this (by simp)
  have hpieces : p.pieces.filter (!·.isEmpty) = p.dropSlashes.pieces.filter (!·.isEmpty) := by
    rw [pieces_eq_splitOn, pieces_eq_splitOn, hchars, hdrop]
    exact filter_splitOn_append_slashes _ hslashes
  rw [names, names, hpieces, if_neg hlast, endsWithSlash]
  by_cases hslash : p.chars.getLast? = some '/' <;> simp [hslash]

theorem dropSlashes_eq_self {p : Path} (h : p.endsWithSlash = false) : p.dropSlashes = p := by
  have hchars : Text.dropEnd (· == '/') p.chars = p.chars := by
    rcases List.eq_nil_or_concat' p.chars with hnil | ⟨init, c, hconcat⟩
    · rw [hnil]
      rfl
    · rw [endsWithSlash, hconcat, List.getLast?_concat] at h
      rw [hconcat]
      exact Text.dropEnd_concat (by simpa using h) init
  rw [dropSlashes, hchars, chars, String.ofList_toList]

theorem empty_notMem_names (p : Path) : "" ∉ p.names := by
  have h : "" ∉ (p.pieces.filter (!·.isEmpty)).map String.ofList := by
    simp
  rw [names]
  split
  · simp
  · exact h

/-- A path that says anything has a name. -/
theorem names_ne_nil {p : Path} (h : p.text ≠ "") : p.names ≠ [] := by
  intro hnil
  rw [names] at hnil
  split at hnil
  · exact absurd hnil (by simp)
  · next hlast =>
    have hslash := Text.all_sep_of_splitOn (show ∀ piece ∈ p.pieces, piece = [] by simpa using hnil)
    rcases List.eq_nil_or_concat' p.chars with hchars | ⟨init, c, hchars⟩
    · exact h (String.toList_eq_nil_iff.1 hchars)
    · rw [hchars, List.getLast?_concat] at hlast
      refine hlast (congrArg some ?_)
      simpa using hslash c (by rw [hchars]; simp)

/-- The steps that names make. -/
def stepsOf (names : List String) : List Component :=
  names.filterMap (Component.ofPiece? ·.toList)

theorem stepsOf_cons {s : String} (h0 : s ≠ "") (h1 : s ≠ ".") (h2 : s ≠ "..")
    (names : List String) : stepsOf (s :: names) = .name s :: stepsOf names :=
  List.filterMap_cons_some (Component.ofPiece?_of_ne h0 h1 h2)

theorem stepsOf_names (p : Path) : stepsOf p.names = p.named := by
  have h : stepsOf ((p.pieces.filter (!·.isEmpty)).map String.ofList) = p.named := by
    rw [stepsOf, List.filterMap_map, List.filterMap_filter, named]
    refine List.filterMap_congr fun piece _ => ?_
    cases piece with
    | nil => rfl
    | cons c cs => simp
  rw [names]
  split
  · rw [stepsOf, List.filterMap_append, ← stepsOf, h]
    exact List.append_nil _
  · exact h

theorem named_dropSlashes (p : Path) : p.dropSlashes.named = p.named := by
  rw [← stepsOf_names, ← stepsOf_names, names_eq_append p, stepsOf, stepsOf, List.filterMap_append]
  split
  · exact (List.append_nil _).symm
  · exact (List.append_nil _).symm

end Path

namespace FileTree

/-! ## Following without links -/

/-- The place that a path has led to, whether or not anything is there. -/
def Spot.place : Spot → List String
  | there place => place
  | absent directory name => directory ++ [name]

variable {t t' : FileTree} {links : ℕ} {place names as bs : List String} {name : String}
  {spot : Spot}

/-- **Where names lead from a place**, as long as there are no links: down from directory to
directory, and with the last name perhaps to nothing. -/
inductive Leads (t : FileTree) : List String → List String → Spot → Prop where
  | nil {place : List String} : Leads t place [] (.there place)
  | current {place names : List String} {spot : Spot} (hdir : t.HasDirectory place)
      (h : Leads t place names spot) : Leads t place ("." :: names) spot
  | parent {place names : List String} {spot : Spot} (hdir : t.HasDirectory place)
      (h : Leads t place.dropLast names spot) : Leads t place (".." :: names) spot
  | name {place names : List String} {name : String} {spot : Spot} (hdir : t.HasDirectory place)
      (hdot : name ≠ ".") (hdots : name ≠ "..")
      (hsome : (t.at? (place ++ [name])).isSome = true)
      (h : Leads t (place ++ [name]) names spot) : Leads t place (name :: names) spot
  | absent {place : List String} {name : String} (hdir : t.HasDirectory place)
      (hdot : name ≠ ".") (hdots : name ≠ "..") (hnone : t.at? (place ++ [name]) = none) :
      Leads t place [name] (.absent place name)

/-- Nothing but a directory can be gone through. -/
theorem follow_cons_of_not_hasDirectory (h : ¬t.HasDirectory place) :
    ∃ e, t.follow links place (name :: names) = .error e := by
  rw [follow]
  split
  · next entries hdir => exact absurd ⟨entries, hdir⟩ h
  · exact ⟨_, rfl⟩
  · exact ⟨_, rfl⟩

/-- One name, followed in a directory of a tree without links. -/
theorem follow_cons (ht : t.Linkless) (hdir : t.HasDirectory place) :
    t.follow links place (name :: names) =
      if name = "." then t.follow links place names
      else if name = ".." then t.follow links place.dropLast names
      else if (t.at? (place ++ [name])).isSome then t.follow links (place ++ [name]) names
      else if names.isEmpty then .ok (.absent place name) else .error .missing := by
  obtain ⟨entries, hdir⟩ := hdir
  rw [follow, hdir]
  dsimp only
  split
  · rfl
  split
  · rfl
  split
  · next hnone => rw [hnone]; rfl
  · next target hlink => exact absurd hlink (ht _ target)
  · next n _ hsome => rw [hsome]; rfl

/-- **Following names finds where they lead.** -/
theorem follow_eq_ok_iff (ht : t.Linkless) :
    t.follow links place names = .ok spot ↔ t.Leads place names spot := by
  constructor
  · intro h
    induction names generalizing place with
    | nil =>
      rw [follow] at h
      obtain rfl := Except.ok.inj h
      exact .nil
    | cons name names ih =>
      by_cases hdir : t.HasDirectory place
      · rw [follow_cons ht hdir] at h
        split at h
        · next heq => exact heq ▸ .current hdir (ih h)
        split at h
        · next heq => exact heq ▸ .parent hdir (ih h)
        split at h
        · next hdot hdots hsome => exact .name hdir hdot hdots hsome (ih h)
        split at h
        · next hdot hdots hnone hempty =>
          obtain rfl := List.isEmpty_iff.1 hempty
          obtain rfl := Except.ok.inj h
          exact .absent hdir hdot hdots (by simpa using hnone)
        · exact absurd h (by simp)
      · obtain ⟨e, he⟩ := follow_cons_of_not_hasDirectory hdir
        exact absurd (he.symm.trans h) (by simp)
  · intro h
    induction h with
    | nil => rw [follow]
    | current hdir _ ih => rw [follow_cons ht hdir, if_pos rfl, ih]
    | parent hdir _ ih => rw [follow_cons ht hdir, if_neg (by decide), if_pos rfl, ih]
    | name hdir hdot hdots hsome _ ih =>
      rw [follow_cons ht hdir, if_neg hdot, if_neg hdots, if_pos hsome, ih]
    | absent hdir hdot hdots hnone =>
      rw [follow_cons ht hdir, if_neg hdot, if_neg hdots, if_neg (by simp [hnone]),
        if_pos (by rfl)]

namespace Leads

/-- **Names lead where their text says.** -/
theorem place_eq (h : t.Leads place names spot) (hnames : "" ∉ names) :
    spot.place = Path.walk place (Path.stepsOf names) := by
  induction h with
  | nil => rfl
  | current _ _ ih => exact ih (List.not_mem_of_not_mem_cons hnames)
  | parent _ _ ih => exact ih (List.not_mem_of_not_mem_cons hnames)
  | @name place names name _ _ hdot hdots _ _ ih =>
    have hname : name ≠ "" := fun h => hnames (h ▸ List.mem_cons_self)
    rw [ih (List.not_mem_of_not_mem_cons hnames), Path.stepsOf_cons hname hdot hdots, Path.walk]
  | @absent place name _ hdot hdots _ =>
    have hname : name ≠ "" := fun h => hnames (h ▸ List.mem_cons_self)
    rw [Path.stepsOf_cons hname hdot hdots]
    rfl

/-- What names lead to is there. -/
theorem isSome_at? {q : List String} (h : t.Leads place names (.there q))
    (hplace : (t.at? place).isSome = true) : (t.at? q).isSome = true := by
  generalize hspot : Spot.there q = spot at h
  induction h with
  | nil =>
    obtain rfl := Spot.there.inj hspot
    exact hplace
  | current _ _ ih => exact ih hplace hspot
  | @parent place _ _ _ _ ih =>
    refine ih ?_ hspot
    rcases List.eq_nil_or_concat' place with rfl | ⟨init, s, rfl⟩
    · exact hplace
    · rw [List.dropLast_concat]
      obtain ⟨entries, hdir⟩ := hasDirectory_of_isSome_at? hplace
      rw [hdir]
      rfl
  | name _ _ _ hsome _ ih => exact ih hsome hspot
  | absent => exact absurd hspot (by simp)

/-- What names do not lead to has a directory to be in. -/
theorem of_absent {d : List String} (h : t.Leads place names (.absent d name)) :
    t.HasDirectory d ∧ t.at? (d ++ [name]) = none := by
  generalize hspot : Spot.absent d name = spot at h
  induction h with
  | nil => exact absurd hspot (by simp)
  | current _ _ ih => exact ih hspot
  | parent _ _ ih => exact ih hspot
  | name _ _ _ _ _ ih => exact ih hspot
  | absent hdir _ _ hnone =>
    obtain ⟨rfl, rfl⟩ := Spot.absent.inj hspot
    exact ⟨hdir, hnone⟩

/-- **Names lead on in a tree that has grown.** -/
theorem of_grows (h : t.Leads place names spot) (hgrows : t.Grows t') (ht : t.Linkless)
    (hspot : (t'.at? spot.place).isSome = true) : t'.Leads place names (.there spot.place) := by
  induction h with
  | nil => exact .nil
  | current hdir _ ih => exact .current (hgrows.hasDirectory hdir) (ih hspot)
  | parent hdir _ ih => exact .parent (hgrows.hasDirectory hdir) (ih hspot)
  | name hdir hdot hdots hsome _ ih =>
    exact .name (hgrows.hasDirectory hdir) hdot hdots (hgrows.isSome_at? ht hsome) (ih hspot)
  | absent hdir hdot hdots _ =>
    exact .name (hgrows.hasDirectory hdir) hdot hdots hspot .nil

theorem append {q : List String} (h : t.Leads place as (.there q)) (h' : t.Leads q bs spot) :
    t.Leads place (as ++ bs) spot := by
  generalize hspot : Spot.there q = mid at h
  induction h with
  | nil =>
    obtain rfl := Spot.there.inj hspot
    exact h'
  | current hdir _ ih => exact .current hdir (ih hspot)
  | parent hdir _ ih => exact .parent hdir (ih hspot)
  | name hdir hdot hdots hsome _ ih => exact .name hdir hdot hdots hsome (ih hspot)
  | absent => exact absurd hspot (by simp)

/-- Names lead straight to what is there. -/
theorem of_isSome_at? (h : (t.at? (place ++ names)).isSome = true)
    (hnames : ∀ s ∈ names, s ≠ "." ∧ s ≠ "..") :
    t.Leads place names (.there (place ++ names)) := by
  induction names generalizing place with
  | nil => exact (List.append_nil place).symm ▸ .nil
  | cons name names ih =>
    have hdir := hasDirectory_of_isSome_at? h
    obtain ⟨hdot, hdots⟩ := hnames name List.mem_cons_self
    rw [List.append_cons] at h ⊢
    have hsome : (t.at? (place ++ [name])).isSome = true := by
      rw [at?_append, Option.isSome_bind] at h
      exact Option.isSome_of_any h
    exact .name hdir hdot hdots hsome (ih h fun s hs => hnames s (List.mem_cons_of_mem _ hs))

/-- What leads on behind some names is led to by them first. -/
theorem of_append (h : t.Leads place (as ++ bs) spot) (hbs : bs ≠ []) :
    ∃ q, t.Leads place as (.there q) ∧ t.Leads q bs spot := by
  induction as generalizing place with
  | nil => exact ⟨place, .nil, h⟩
  | cons name as ih =>
    rw [List.cons_append] at h
    generalize hrest : as ++ bs = rest at h
    cases h with
    | current hdir h =>
      obtain ⟨q, has, hq⟩ := ih (hrest ▸ h)
      exact ⟨q, .current hdir has, hq⟩
    | parent hdir h =>
      obtain ⟨q, has, hq⟩ := ih (hrest ▸ h)
      exact ⟨q, .parent hdir has, hq⟩
    | name hdir hdot hdots hsome h =>
      obtain ⟨q, has, hq⟩ := ih (hrest ▸ h)
      exact ⟨q, .name hdir hdot hdots hsome has, hq⟩
    | absent => exact absurd (List.append_eq_nil_iff.1 hrest).2 hbs

/-- A `.` leads nowhere else, and asks for a directory. -/
theorem of_current (h : t.Leads place ["."] spot) : spot = .there place ∧ t.HasDirectory place := by
  generalize hnames : ["."] = names at h
  cases h with
  | nil => exact absurd hnames (by simp)
  | current hdir h =>
    obtain rfl := (List.cons.inj hnames).2
    cases h with
    | nil => exact ⟨rfl, hdir⟩
  | parent => exact absurd (List.cons.inj hnames).1 (by decide)
  | name _ hdot => exact absurd (List.cons.inj hnames).1.symm hdot
  | absent _ hdot => exact absurd (List.cons.inj hnames).1.symm hdot

end Leads

end FileTree

end ElementBindings
