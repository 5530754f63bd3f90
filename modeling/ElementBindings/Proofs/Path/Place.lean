import ElementBindings.Proofs.Path.Components
import Mathlib.Data.List.Induction
import Mathlib.Data.List.Infix

/-!
# Proofs/Path/Place — the place a path leads to

A place is a list of names that leads down from the root.  Walking the components of a path from the
root — a name goes down, a `..` up, a root starts over — ends at a place (`walk`), and for absolute
paths that place is all that normalising keeps (`normalize_of_isAbsolute`) and all that containment
looks at (`isWithin_iff`).
-/

namespace ElementBindings.Path

/-! ## Walking -/

/-- **Where components lead from a place.** -/
def walk : List String → List Component → List String
  | place, [] => place
  | _, .root :: cs => walk [] cs
  | place, .current :: cs => walk place cs
  | place, .parent :: cs => walk place.dropLast cs
  | place, .name s :: cs => walk (place ++ [s]) cs

theorem walk_append (place : List String) (as bs : List Component) :
    walk place (as ++ bs) = walk (walk place as) bs := by
  induction as generalizing place with
  | nil => rfl
  | cons c as ih => cases c <;> exact ih _

/-- Names lead down. -/
theorem walk_names (place ns : List String) :
    walk place (ns.map .name) = place ++ ns := by
  induction ns generalizing place with
  | nil => exact (List.append_nil place).symm
  | cons s ns ih =>
    rw [List.map_cons, walk, ih, List.append_assoc, List.singleton_append]

/-- As many `..`s as there are names lead back up. -/
theorem walk_parents (place climb : List String) :
    walk (place ++ climb) (List.replicate climb.length .parent) = place := by
  induction climb using List.reverseRecOn with
  | nil => exact List.append_nil place
  | append_singleton climb s ih =>
    rw [List.length_append, List.length_singleton, List.replicate_succ, walk, ← List.append_assoc,
      List.dropLast_concat, ih]

/-- A walk by file names from a place of file names ends at such a place. -/
theorem isFileName_of_mem_walk {cs : List Component} {place : List String}
    (hcs : ∀ s, .name s ∈ cs → IsFileName s) (hplace : ∀ s ∈ place, IsFileName s) :
    ∀ s ∈ walk place cs, IsFileName s := by
  induction cs generalizing place with
  | nil => exact hplace
  | cons c cs ih =>
    have hrest : ∀ s, .name s ∈ cs → IsFileName s := fun s hs => hcs s (List.mem_cons_of_mem c hs)
    cases c with
    | root => exact ih hrest (by simp)
    | current => exact ih hrest hplace
    | parent => exact ih hrest fun s hs => hplace s (List.mem_of_mem_dropLast hs)
    | name t =>
      refine ih hrest fun s hs => ?_
      rcases List.mem_append.1 hs with hs | hs
      · exact hplace s hs
      · obtain rfl := List.mem_singleton.1 hs
        exact hcs s List.mem_cons_self

/-! ## Places -/

/-- The place that a path leads to from the root. -/
def place (p : Path) : List String := walk [] p.components

/-- The path that goes straight to a place. -/
def ofPlace (ns : List String) : Path := ⟨"/" ++ "/".intercalate ns⟩

theorem isFileName_of_mem_named {p : Path} {s : String} (h : .name s ∈ p.named) : IsFileName s := by
  rcases mem_named h with h | ⟨t, ht, h⟩
  · exact absurd h (by simp)
  · obtain rfl := Component.name.inj h
    exact ht

/-- A root or a `.` in front leads nowhere. -/
theorem place_eq_walk_named (p : Path) : p.place = walk [] p.named := by
  rw [place]
  cases hp : p.isAbsolute with
  | true => rw [components_of_isAbsolute hp, walk]
  | false =>
    rcases components_of_not_isAbsolute hp with hc | hc
    · rw [hc]
    · rw [hc, walk]

theorem isFileName_of_mem_place (p : Path) : ∀ s ∈ p.place, IsFileName s := by
  rw [place_eq_walk_named]
  exact isFileName_of_mem_walk (fun s hs => isFileName_of_mem_named hs) (by simp)

theorem isAbsolute_ofPlace (ns : List String) : (ofPlace ns).isAbsolute = true :=
  isAbsolute_iff.2 ⟨("/".intercalate ns).toList, by simp [chars, ofPlace, String.toList_append]⟩

theorem pieces_ofPlace {ns : List String} (hne : ns ≠ []) (h : ∀ s ∈ ns, IsFileName s) :
    (ofPlace ns).pieces = [] :: ns.map String.toList := by
  have hcut : (ofPlace ns).chars = [] ++ '/' :: (Path.mk ("/".intercalate ns)).chars := by
    simp [chars, ofPlace, String.toList_append]
  rw [pieces_eq_splitOn, hcut, List.splitOn_append_cons_self, ← pieces_eq_splitOn,
    pieces_intercalate hne fun s hs => (h s hs).slash_notMem]
  rfl

theorem named_ofPlace {ns : List String} (h : ∀ s ∈ ns, IsFileName s) :
    (ofPlace ns).named = ns.map .name := by
  by_cases hne : ns = []
  · subst hne
    rfl
  · rw [named, pieces_ofPlace hne h, List.filterMap_cons_none (by rfl), filterMap_ofPiece? h]

/-- **The straight path to a place leads there.** -/
theorem place_ofPlace {ns : List String} (h : ∀ s ∈ ns, IsFileName s) :
    (ofPlace ns).place = ns := by
  rw [place_eq_walk_named, named_ofPlace h, walk_names, List.nil_append]

/-- **A joined path leads on from the directory.** -/
theorem place_join {p : Path} (hp : p.isAbsolute = false) (dir : Path) :
    (dir.join p).place = walk dir.place p.named := by
  rw [place_eq_walk_named, named_join hp, walk_append, ← place_eq_walk_named]

/-! ## Normal forms -/

/-- The stack of steps from the root to a place holds, from the top, the names in reverse. -/
theorem foldl_step {cs : List Component} (hcs : ∀ c ∈ cs, c ≠ .root) (place : List String) :
    cs.foldl step ((place.map Component.name).reverse ++ [.root])
      = ((walk place cs).map Component.name).reverse ++ [.root] := by
  induction cs generalizing place with
  | nil => rfl
  | cons c cs ih =>
    have ih := ih fun c hc => hcs c (List.mem_cons_of_mem _ hc)
    rw [List.foldl_cons]
    cases c with
    | root => exact absurd rfl (hcs .root List.mem_cons_self)
    | current => exact ih place
    | parent =>
      rw [walk, ← ih]
      rcases List.eq_nil_or_concat place with rfl | ⟨init, s, rfl⟩
      · rfl
      · simp [step]
    | name s =>
      rw [walk, ← ih]
      simp [step]

theorem resolve_root_cons {cs : List Component} (hcs : ∀ c ∈ cs, c ≠ .root) :
    resolve (.root :: cs) = .root :: (walk [] cs).map .name := by
  have h := foldl_step hcs []
  rw [resolve, List.foldl_cons]
  exact (congrArg List.reverse h).trans (by simp)

theorem resolve_of_isAbsolute {p : Path} (h : p.isAbsolute = true) :
    resolve p.components = .root :: p.place.map .name := by
  have hroot : ∀ c ∈ p.named, c ≠ .root := fun c hc he => by
    rcases mem_named hc with rfl | ⟨s, -, rfl⟩ <;> exact absurd he (by simp)
  rw [components_of_isAbsolute h, resolve_root_cons hroot, place_eq_walk_named]

/-- **Normalising an absolute path keeps its place and nothing else.** -/
theorem normalize_of_isAbsolute {p : Path} (h : p.isAbsolute = true) :
    p.normalize = ofPlace p.place := by
  rw [normalize, resolve_of_isAbsolute h, ofComponents, ofPlace, List.map_map]
  exact congrArg (fun l => Path.mk ("/" ++ "/".intercalate l)) (List.map_id'' (fun _ => rfl) _)

theorem isAbsolute_normalize {p : Path} (h : p.isAbsolute = true) :
    p.normalize.isAbsolute = true := by
  rw [normalize_of_isAbsolute h]
  exact isAbsolute_ofPlace _

theorem place_normalize {p : Path} (h : p.isAbsolute = true) : p.normalize.place = p.place := by
  rw [normalize_of_isAbsolute h, place_ofPlace (isFileName_of_mem_place p)]

theorem components_normalize {p : Path} (h : p.isAbsolute = true) :
    p.normalize.components = .root :: p.place.map .name := by
  rw [normalize_of_isAbsolute h, components_of_isAbsolute (isAbsolute_ofPlace _),
    named_ofPlace (isFileName_of_mem_place p)]

/-- **An absolute path lies in a directory when its place lies below the directory's.** -/
theorem isWithin_iff {p dir : Path} (hp : p.isAbsolute = true) (hdir : dir.isAbsolute = true) :
    p.isWithin dir = true ↔ dir.place <+: p.place := by
  rw [isWithin, components_normalize hp, components_normalize hdir, List.isPrefixOf_iff_prefix,
    List.cons_prefix_cons, List.prefix_map_iff_of_injective fun _ _ => Component.name.inj]
  exact and_iff_right rfl

end ElementBindings.Path
