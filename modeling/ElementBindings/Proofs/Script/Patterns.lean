import ElementBindings.Proofs.Script.Scanning
import ElementBindings.Script.Parse.Basic

/-!
# Proofs/Script/Patterns — names that a module may bind, and patterns that bind them

A module is strict code.  It may bind an identifier that is neither a reserved word nor one of the
words that strict code keeps or protects besides (`isBindingIdentifier`), so it may bind an accepted
name unless that is such a word or has an ornament in it (`isBindingIdentifier_iff`).  A pattern
takes an object apart and binds names to what is in it; a statement that does so is one of a module
if the module may bind the names, each of them once (`IsDestructuring`).
-/

namespace ElementBindings.Script

open Text

/-! ## Names -/

/-- The words that strict code keeps besides the reserved ones, and the two names it may not bind.
Modules are strict code. -/
def strictWords : List String :=
  ["let", "static", "yield", "await", "implements", "interface", "package", "private", "protected",
    "public", "eval", "arguments"]

/-- **Whether a module may bind a name.** -/
def isBindingIdentifier (name : String) : Bool :=
  isIdentifierName name.toList && !(Parse.reservedWords ++ strictWords).contains name

variable {name : String}

/-- No reserved word is accepted as a name. -/
theorem reservedWords_subset : Parse.reservedWords ⊆ Text.reservedWords := by decide

/-- **A module may bind an accepted name** just when it is no word of strict code and has no
ornament in it. -/
theorem isBindingIdentifier_iff (h : isBindable name = true) :
    isBindingIdentifier name = true ↔ name ∉ strictWords ∧ Unadorned name.toList := by
  obtain ⟨hform, hfree⟩ := isBindable_iff.1 h
  have hreserved : name ∉ Parse.reservedWords := fun hmem => hfree (reservedWords_subset hmem)
  rw [isBindingIdentifier, Bool.and_eq_true, isIdentifierName_iff hform, Bool.not_eq_true',
    List.contains_eq_mem, decide_eq_false_iff_not, List.mem_append, not_or, and_comm]
  exact and_congr_left' (and_iff_right hreserved)

/-! ## Patterns -/

mutual

/-- **What may stand between the braces of a pattern that takes an object apart**, and the names it
binds: properties under their own names or under others, and at the end what is left of the object.
Patterns inside of it and defaults need signs of their own and are left out. -/
inductive PatternMembers : List Kind → List String → Prop where
  | nil : PatternMembers [] []
  | rest {n : String} : PatternMembers [.punct "...", .name n] [n]
  | named {n : String} {ks : List Kind} {ns : List String} (h : PatternTail ks ns) :
      PatternMembers (.name n :: ks) (n :: ns)
  | renamed {key n : String} {ks : List Kind} {ns : List String} (h : PatternTail ks ns) :
      PatternMembers (.name key :: .punct ":" :: .name n :: ks) (n :: ns)

/-- What may follow a property in such a pattern. -/
inductive PatternTail : List Kind → List String → Prop where
  | nil : PatternTail [] []
  | comma {ks : List Kind} {ns : List String} (h : PatternMembers ks ns) :
      PatternTail (.punct "," :: ks) ns

end

section Members

variable {ks : List Kind} {ns : List String} {key n : String}

theorem patternTail_comma_iff : PatternTail (.punct "," :: ks) ns ↔ PatternMembers ks ns := by
  refine ⟨fun h => ?_, .comma⟩
  cases h with
  | comma h => exact h

theorem patternTail_colon : ¬ PatternTail (.punct ":" :: ks) ns := by
  intro h
  -- `cases` cannot tell one sign from another
  generalize hall : Kind.punct ":" :: ks = all at h
  cases h with
  | nil => exact absurd hall (by simp)
  | comma h => exact absurd hall (by simp)

/-- What is left of the object is bound to one name. -/
theorem patternMembers_rest_iff : PatternMembers [.punct "...", .name n] ns ↔ ns = [n] := by
  refine ⟨fun h => ?_, fun h => h ▸ .rest⟩
  cases h with
  | rest => rfl

/-- A property is bound to its name. -/
theorem patternMembers_named_iff : PatternMembers (.name n :: .punct "," :: ks) ns
    ↔ ∃ tail, ns = n :: tail ∧ PatternMembers ks tail := by
  constructor
  · intro h
    generalize hall : Kind.name n :: .punct "," :: ks = all at h
    cases h with
    | nil => exact absurd hall (by simp)
    | rest => exact absurd hall (by simp)
    | named h =>
      rw [List.cons.injEq, Kind.name.injEq] at hall
      obtain ⟨rfl, rfl⟩ := hall
      exact ⟨_, rfl, patternTail_comma_iff.1 h⟩
    | renamed h => exact absurd hall (by simp)
  · rintro ⟨tail, rfl, h⟩
    exact .named (.comma h)

/-- A property is bound to another name. -/
theorem patternMembers_renamed_iff :
    PatternMembers (.name key :: .punct ":" :: .name n :: .punct "," :: ks) ns
      ↔ ∃ tail, ns = n :: tail ∧ PatternMembers ks tail := by
  constructor
  · intro h
    cases h with
    | named h => exact absurd h patternTail_colon
    | renamed h => exact ⟨_, rfl, patternTail_comma_iff.1 h⟩
  · rintro ⟨tail, rfl, h⟩
    exact .renamed (.comma h)

end Members

/-- **Whether a text is a statement of a module that takes an object apart**: its names are names
that a module may bind, and none of them is bound twice. -/
def IsDestructuring (cs : List Char) : Prop :=
  ∃ members names source,
    Scans cs (.name "const" :: .punct "\x7b" ::
      (members ++ [.punct "\x7d", .punct "=", .name source, .punct ";"])) ∧
    PatternMembers members names ∧ isBindingIdentifier source = true ∧
    (∀ name ∈ names, isBindingIdentifier name = true) ∧ names.Nodup

end ElementBindings.Script
