import ElementBindings.Glob.Source
import ElementBindings.Proofs.Except
import Mathlib.Data.List.Forall2

/-!
# Proofs/Glob/Source — what a source pattern is read to

The segments of a source pattern without a special character are its base, all but the last one; the
rest of them, with the last one rewritten, is what it selects (`read_eq_ok_iff`).
-/

namespace ElementBindings.SourceGlob

variable {g : SourceGlob} {pattern : String}

/-- The segments of a pattern. -/
def segments (pattern : String) : List (List Char) :=
  (Text.splitOn (· == '/') pattern.toList).filter (!·.isEmpty)

/-- The directory that the segments of a base lead to. -/
def baseOf (pattern : String) (literal : List (List Char)) : Path :=
  literal.foldl (fun p s => p.join ⟨String.ofList s⟩)
    (if pattern.toList.head? = some '/' then ⟨"/"⟩ else ⟨""⟩)

/-- A part of a pattern is read as it would be on its own. -/
theorem readPart_eq_ok_iff {part : String} {glob : Glob} :
    readPart pattern part = .ok glob ↔ Glob.read part = .ok glob := Except.mapError_eq_ok

/-- **What a source pattern is read to.** -/
structure IsRead (pattern : String) (outer : List (List Char)) (last : List Char)
    (g : SourceGlob) : Prop where
  segments_eq : segments pattern = outer ++ [last]
  pattern_eq : g.pattern = pattern
  base_eq : g.base = baseOf pattern (outer.takeWhile (!isSpecial ·))
  selected : Glob.read (String.ofList (['/'].intercalate
    (outer.dropWhile (!isSpecial ·) ++ [(rewriteLast last).1]))) = .ok g.selected
  excluded : List.Forall₂ (fun part glob => Glob.read part = .ok glob)
    (defaultExcludes ++ (rewriteLast last).2) g.excluded

/-- **A pattern is accepted when it has a segment and its parts can be read.** -/
theorem read_eq_ok_iff :
    SourceGlob.read pattern = .ok g ↔ ∃ outer last, IsRead pattern outer last g := by
  have hdrop : ∀ outer : List (List Char),
      outer.drop (outer.takeWhile (!isSpecial ·)).length = outer.dropWhile (!isSpecial ·) := by
    intro outer
    exact List.append_cancel_left ((List.prefix_iff_eq_append.1 (List.takeWhile_prefix _)).trans
      List.takeWhile_append_dropWhile.symm)
  have hexcludes : ∀ {parts : List String} {globs : List Glob},
      parts.mapM (readPart pattern) = .ok globs
        ↔ List.Forall₂ (fun part glob => Glob.read part = .ok glob) parts globs := by
    intro parts globs
    simp only [Except.mapM_eq_ok, readPart_eq_ok_iff]
  rw [SourceGlob.read]
  dsimp only
  constructor
  · intro h
    split at h
    · exact absurd h Except.throw_ne_ok
    next last hlast =>
    obtain ⟨outer, houter⟩ := List.getLast?_eq_some_iff.1 hlast
    rw [houter, List.dropLast_concat, hdrop] at h
    obtain ⟨selected, hselected, h⟩ := Except.bind_eq_ok.1 h
    obtain ⟨excluded, hexcluded, h⟩ := Except.bind_eq_ok.1 h
    obtain rfl := Except.ok.inj h
    exact ⟨outer, last, houter, rfl, rfl, readPart_eq_ok_iff.1 hselected,
      hexcludes.1 hexcluded⟩
  · rintro ⟨outer, last, h⟩
    have hlast : (segments pattern).getLast? = some last := by rw [h.segments_eq]; simp
    rw [← segments, hlast, h.segments_eq, List.dropLast_concat, hdrop]
    refine Except.bind_eq_ok.2 ⟨_, readPart_eq_ok_iff.2 h.selected,
      Except.bind_eq_ok.2 ⟨_, hexcludes.2 h.excluded, ?_⟩⟩
    rw [← baseOf, ← h.base_eq, ← h.pattern_eq]
    rfl

end ElementBindings.SourceGlob
