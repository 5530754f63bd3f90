import ElementBindings.Proofs.Files.Access
import Mathlib.Data.List.Nodup

/-!
# Proofs/Files/Listing — what is listed below a directory

In a tree without links a listing gives the regular files below a directory (`listing_eq`), and
edits change it by the files they write only (`Edits.filter_filePlaces`).
-/

namespace ElementBindings

namespace FileNode

variable {n m : FileNode} {entries : List (String × FileNode)}

/-! ## Sizes -/

theorem count_lt_of_mem {e : String × FileNode} (h : e ∈ entries) :
    e.2.count < (directory entries).count := by
  rw [count, Nat.lt_succ_iff]
  induction entries with
  | nil => exact absurd h (by simp)
  | cons e' es ih =>
    rw [countAll]
    rcases List.mem_cons.1 h with rfl | h
    · exact Nat.le_add_right _ _
    · exact (ih h).trans (Nat.le_add_left _ _)

/-- What stands in a tree is no larger than the tree. -/
theorem count_le_of_at? {place : List String} (h : n.at? place = some m) : m.count ≤ n.count := by
  induction place generalizing n with
  | nil => exact (Option.some.inj h) ▸ le_rfl
  | cons name place ih =>
    obtain ⟨entries, below, rfl, hbelow, hm⟩ := exists_directory_of_at?_cons h
    obtain ⟨before, after, rfl, -⟩ := List.lookup_eq_some_iff.1 hbelow
    have hmem : (name, below) ∈ before ++ (name, below) :: after := by simp
    exact (ih hm).trans (count_lt_of_mem hmem).le

end FileNode

namespace FileTree

variable {t t' : FileTree} {place rel : List String} {p : Path} {n : FileNode}
  {outs : Set (List String)} {P : List String → Bool}

/-! ## Listings -/

/-- **With enough fuel a walk gives the files below a directory.** -/
theorem filesFrom_eq (ht : t.Plain) {fuel : ℕ} {above : List (List String)}
    {entries : List (String × FileNode)} (hdir : t.at? place = some (.directory entries))
    (hfuel : (FileNode.directory entries).count ≤ fuel) :
    t.filesFrom fuel above place = (FileNode.directory entries).filePlaces := by
  induction fuel generalizing above place entries with
  | zero => exact absurd hfuel (by simp [FileNode.count])
  | succ fuel ih =>
    rw [filesFrom, hdir, FileNode.filePlaces_directory]
    refine List.flatMap_congr fun ⟨name, node⟩ he => ?_
    have hat : t.at? (place ++ [name]) = some node := ht.at?_of_mem hdir he
    have hcount : node.count < (FileNode.directory entries).count := FileNode.count_lt_of_mem he
    cases node with
    | file content => rfl
    | link target => exact absurd hat (ht.linkless _ target)
    | directory below => exact congrArg (·.map (name :: ·)) (ih hat (by omega))

/-- **A listing gives the regular files below a directory.** -/
theorem listing_eq (ht : t.Plain) (h : t.isDirectory p = true) :
    t.listing p = (t.at? p.place).elim [] FileNode.filePlaces := by
  obtain ⟨hreaches, entries, hdir⟩ := (isDirectory_iff ht.linkless).1 h
  have hlocate := (locate_eq_there_iff ht.linkless).2 ⟨hreaches, by rw [hdir]; rfl⟩
  have hcount := FileNode.count_le_of_at? hdir
  rw [listing, hlocate, hdir]
  exact filesFrom_eq ht hdir (hcount.trans ((Nat.le_succ _).trans (Nat.le_mul_self _)))

theorem filesFrom_of_not_hasDirectory (h : ¬t.HasDirectory place) (fuel : ℕ)
    (above : List (List String)) : t.filesFrom fuel above place = [] := by
  cases fuel with
  | zero => rfl
  | succ fuel =>
    rw [filesFrom]
    split
    · next entries hdir => exact absurd ⟨entries, hdir⟩ h
    · rfl

/-- Nothing is listed below anything else. -/
theorem listing_eq_nil (ht : t.Linkless) (h : t.isDirectory p ≠ true) : t.listing p = [] := by
  rw [listing]
  split
  · next q hq =>
    obtain rfl : q = p.place := place_of_locate ht hq
    exact filesFrom_of_not_hasDirectory
      (fun hdir => h ((isDirectory_iff ht).2 ⟨⟨_, hq⟩, hdir⟩)) _ _
  · rfl

/-- What is listed bears names of files. -/
theorem isFileName_of_mem_filePlaces (ht : t.Plain) (hn : t.at? place = some n)
    (h : rel ∈ n.filePlaces) : ∀ s ∈ rel, Path.IsFileName s := by
  induction rel generalizing place n with
  | nil => simp
  | cons name rel ih =>
    cases n with
    | file content => exact absurd h (by simp [FileNode.filePlaces, FileNode.files])
    | link target => exact absurd hn (ht.linkless _ target)
    | directory entries =>
      rw [FileNode.filePlaces_directory, List.mem_flatMap] at h
      obtain ⟨e, he, h⟩ := h
      obtain ⟨q, hq, heq⟩ := List.mem_map.1 h
      obtain ⟨rfl, rfl⟩ := List.cons.inj heq
      exact List.forall_mem_cons.2 ⟨ht.isFileName hn e he, ih (ht.at?_of_mem hn he) hq⟩

/-- **What is listed are the places of the regular files.** -/
theorem mem_filePlaces_iff (ht : t.Plain) (hn : t.at? place = some n) :
    rel ∈ n.filePlaces ↔ (t.fileAt? (place ++ rel)).isSome = true := by
  induction rel generalizing place n with
  | nil =>
    rw [List.append_nil, fileAt?, hn]
    cases n with
    | file content => exact iff_of_true List.mem_cons_self rfl
    | link target => exact absurd hn (ht.linkless _ target)
    | directory entries =>
      rw [FileNode.filePlaces_directory, List.mem_flatMap]
      refine iff_of_false ?_ (by simp)
      rintro ⟨e, -, h⟩
      exact absurd h (by simp)
  | cons name rel ih =>
    cases n with
    | file content =>
      rw [fileAt?, at?_append, hn]
      exact iff_of_false (by simp [FileNode.filePlaces, FileNode.files]) (by simp [FileNode.at?])
    | link target => exact absurd hn (ht.linkless _ target)
    | directory entries =>
      have hbelow : ∀ e ∈ entries, rel ∈ e.2.filePlaces ↔
          (t.fileAt? (place ++ e.1 :: rel)).isSome = true := fun e he => by
        rw [List.append_cons]
        exact ih (ht.at?_of_mem hn he)
      rw [FileNode.filePlaces_directory, List.mem_flatMap]
      constructor
      · rintro ⟨e, he, h⟩
        obtain ⟨q, hq, heq⟩ := List.mem_map.1 h
        obtain ⟨rfl, rfl⟩ := List.cons.inj heq
        exact (hbelow e he).1 hq
      · intro h
        obtain ⟨content, hfile⟩ := Option.isSome_iff_exists.1 h
        rw [fileAt?_eq_some_iff, at?_append, hn, Option.bind_some] at hfile
        obtain ⟨_, below, heq, hlookup, -⟩ := FileNode.exists_directory_of_at?_cons hfile
        obtain rfl := FileNode.directory.inj heq
        obtain ⟨before, after, rfl, -⟩ := List.lookup_eq_some_iff.1 hlookup
        have he : (name, below) ∈ before ++ (name, below) :: after := by simp
        exact ⟨_, he, List.mem_map_of_mem ((hbelow _ he).2 h)⟩

/-- **Nothing is listed twice.** -/
theorem nodup_filePlaces (ht : t.Plain) (hn : t.at? place = some n) : n.filePlaces.Nodup := by
  induction hsize : n.count using Nat.strong_induction_on generalizing place n with
  | _ size ih =>
  cases n with
  | file content => exact List.nodup_singleton []
  | link target => exact absurd hn (ht.linkless _ target)
  | directory entries =>
    rw [FileNode.filePlaces_directory, List.nodup_flatMap]
    refine ⟨fun e he => ?_, ?_⟩
    · have hbelow := ih _ (hsize ▸ FileNode.count_lt_of_mem he) (ht.at?_of_mem hn he) rfl
      exact hbelow.map fun _ _ h => (List.cons.inj h).2
    · refine (List.pairwise_map.1 (ht.nodup hn)).imp fun hne q hq hq' => ?_
      obtain ⟨r, -, rfl⟩ := List.mem_map.1 hq
      obtain ⟨r', -, heq⟩ := List.mem_map.1 hq'
      exact hne (List.cons.inj heq).1.symm

/-- **A listing gives what it should**: the regular files below a directory. -/
theorem mem_listing_iff (ht : t.Plain) : rel ∈ t.listing p ↔
    t.isDirectory p = true ∧ (t.fileAt? (p.place ++ rel)).isSome = true := by
  by_cases hdir : t.isDirectory p = true
  · obtain ⟨-, entries, hentries⟩ := (isDirectory_iff ht.linkless).1 hdir
    rw [listing_eq ht hdir, hentries, Option.elim_some, mem_filePlaces_iff ht hentries,
      and_iff_right hdir]
  · rw [listing_eq_nil ht.linkless hdir]
    exact iff_of_false List.not_mem_nil fun h => hdir h.1

theorem nodup_listing (ht : t.Plain) : (t.listing p).Nodup := by
  by_cases hdir : t.isDirectory p = true
  · obtain ⟨-, entries, hentries⟩ := (isDirectory_iff ht.linkless).1 hdir
    rw [listing_eq ht hdir, hentries]
    exact nodup_filePlaces ht hentries
  · rw [listing_eq_nil ht.linkless hdir]
    exact List.nodup_nil

/-- What is listed bears names of files. -/
theorem isFileName_of_mem_listing (ht : t.Plain) (h : rel ∈ t.listing p) :
    ∀ s ∈ rel, Path.IsFileName s := by
  have hdir := ((mem_listing_iff ht).1 h).1
  obtain ⟨-, entries, hentries⟩ := (isDirectory_iff ht.linkless).1 hdir
  rw [listing_eq ht hdir, hentries] at h
  exact isFileName_of_mem_filePlaces ht hentries h

/-! ## Listings of edited trees -/

/-- **What is put in a tree is listed below the directories around it**, and nowhere else. -/
theorem filter_filePlaces_put {d : List String} {name : String} {node : FileNode}
    (hfree : t.at? (d ++ [name]) = none ∨ ∃ old, t.at? (d ++ [name]) = some (.file old))
    (hdir : t.HasDirectory place)
    (hsame : ∀ rest, d ++ [name] = place ++ rest →
      (node.filePlaces.filter fun q => P (rest ++ q))
        = ((t.at? (d ++ [name])).elim [] FileNode.filePlaces).filter fun q => P (rest ++ q)) :
    (((t.put (d ++ [name]) node).at? place).elim [] FileNode.filePlaces).filter P
      = ((t.at? place).elim [] FileNode.filePlaces).filter P := by
  obtain ⟨entries, hdir⟩ := hdir
  have hne := not_hasDirectory_of_free hfree
  by_cases habove : place <+: d ++ [name]
  · obtain ⟨rest, heq⟩ := habove
    have hrest : rest ≠ [] := by
      rintro rfl
      rw [List.append_nil] at heq
      exact hne ⟨entries, heq ▸ hdir⟩
    have hput : (t.put (d ++ [name]) node).at? place = (t.at? place).map (·.put rest node) := by
      rw [← heq]
      exact FileNode.at?_put_above t.root node place hrest
    have hsame := hsame rest heq.symm
    rw [← heq, at?_append, hdir, Option.bind_some] at hsame
    rw [hput, hdir]
    exact FileNode.filter_filePlaces_put hsame
  · have hbelow : ¬d ++ [name] <+: place := by
      rintro ⟨rest, rfl⟩
      cases rest with
      | nil => exact hne ⟨entries, by rwa [List.append_nil] at hdir⟩
      | cons s rest => exact hne (hasDirectory_of_isSome_at? (by rw [hdir]; rfl))
    rw [show (t.put (d ++ [name]) node).at? place = t.at? place from
      FileNode.at?_put_apart t.root node hbelow habove]

/-- **An edit lists no other files than before**, apart from the places it may write to. -/
theorem Edit.filter_filePlaces (h : Edit outs t t') (hdir : t.HasDirectory place)
    (houts : ∀ rel, place ++ rel ∈ outs → P rel = false) :
    ((t'.at? place).elim [] FileNode.filePlaces).filter P
      = ((t.at? place).elim [] FileNode.filePlaces).filter P := by
  cases h with
  | directory hfits hnone =>
    refine filter_filePlaces_put (Or.inl hnone) hdir fun rest _ => ?_
    rw [hnone]
    rfl
  | @file d name content hfits hfree hout =>
    refine filter_filePlaces_put hfree hdir fun rest heq => ?_
    rcases hfree with hnone | ⟨old, hold⟩
    · rw [hnone]
      have hP := houts rest (heq ▸ hout)
      simpa [FileNode.filePlaces, FileNode.files] using hP
    · rw [hold]
      rfl

/-- **Edits list no other files than before**, apart from the places they may write to. -/
theorem Edits.filter_filePlaces (h : Edits outs t t') (hdir : t.HasDirectory place)
    (houts : ∀ rel, place ++ rel ∈ outs → P rel = false) :
    ((t'.at? place).elim [] FileNode.filePlaces).filter P
      = ((t.at? place).elim [] FileNode.filePlaces).filter P := by
  induction h with
  | refl => rfl
  | tail hedits hedit ih =>
    rw [hedit.filter_filePlaces (Edits.grows hedits |>.hasDirectory hdir) houts, ih]

end FileTree

end ElementBindings
