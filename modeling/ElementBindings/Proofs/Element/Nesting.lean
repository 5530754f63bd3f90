import ElementBindings.Element.Surface
import Mathlib.Logic.ExistsUnique

/-!
# Proofs/Element/Nesting — registrations in blocks and under conditions

Statements can be put inside blocks and under conditions in any way and to any depth
(`WrapsAll`); what comes out when all of it is taken apart does not depend on how they were put
(`WrapsAll.unwrappedAll_eq`).  A module registers what the calls among its statements, taken apart,
register, one thing for each call and in their order (`registrationsInAll_eq`), so how they are
wrapped does not show in its registrations (`registrations_wrapped`).
-/

namespace ElementBindings

open Script

/-! ## Wrapping -/

namespace Script

/-- Whether a statement holds others: a block, or a condition with its branches.  What is tested is
no part of the tree. -/
def Statement.isNest : Statement → Bool
  | .block _ | .ifElse .. => true
  | _ => false

mutual

/-- **Whether a statement is some statements in their order, put inside blocks and under
conditions**: each of them as it is, in a block with others, or in either branch of a condition. -/
inductive Wraps : Statement → List Statement → Prop where
  | self (s : Statement) : Wraps s [s]
  | block {body inside : List Statement} (hbody : WrapsAll body inside) :
      Wraps (.block body) inside
  | ifThen {s : Statement} {inside : List Statement} (hs : Wraps s inside) :
      Wraps (.ifElse s none) inside
  | ifElse {s t : Statement} {inside more : List Statement} (hs : Wraps s inside)
      (ht : Wraps t more) : Wraps (.ifElse s (some t)) (inside ++ more)

/-- Whether a list of statements is a wrapping of another one. -/
inductive WrapsAll : List Statement → List Statement → Prop where
  | nil : WrapsAll [] []
  | cons {s : Statement} {rest inside more : List Statement} (hs : Wraps s inside)
      (hrest : WrapsAll rest more) : WrapsAll (s :: rest) (inside ++ more)

end

mutual

/-- The statements that a statement comes to when blocks and conditions are taken apart. -/
def Statement.unwrapped : Statement → List Statement
  | .ifElse s none => s.unwrapped
  | .ifElse s (some t) => s.unwrapped ++ t.unwrapped
  | .block body => unwrappedAll body
  | s => [s]

/-- **The statements that a list comes to** when blocks and conditions are taken apart. -/
def unwrappedAll : List Statement → List Statement
  | [] => []
  | s :: ss => s.unwrapped ++ unwrappedAll ss

end

theorem Statement.unwrapped_of_isNest_eq_false {s : Statement} (h : s.isNest = false) :
    s.unwrapped = [s] := by
  cases s with
  | block body => exact absurd h.symm Bool.false_ne_true
  | ifElse s t => exact absurd h.symm Bool.false_ne_true
  | _ => rw [unwrapped] <;> simp

theorem unwrappedAll_append (ss ts : List Statement) :
    unwrappedAll (ss ++ ts) = unwrappedAll ss ++ unwrappedAll ts := by
  induction ss with
  | nil => rfl
  | cons s ss ih => rw [List.cons_append, unwrappedAll, unwrappedAll, ih, List.append_assoc]

theorem unwrappedAll_singleton (s : Statement) : unwrappedAll [s] = s.unwrapped := by
  rw [unwrappedAll, unwrappedAll, List.append_nil]

/-- Statements that hold no others are there when all is taken apart. -/
theorem unwrappedAll_eq_self {ss : List Statement} (h : ∀ s ∈ ss, s.isNest = false) :
    unwrappedAll ss = ss := by
  induction ss with
  | nil => rfl
  | cons s ss ih =>
    rw [List.forall_mem_cons] at h
    rw [unwrappedAll, Statement.unwrapped_of_isNest_eq_false h.1, ih h.2, List.singleton_append]

mutual

/-- **However statements are wrapped, they come to the same.** -/
theorem Wraps.unwrapped_eq {s : Statement} {inside : List Statement} :
    Wraps s inside → s.unwrapped = unwrappedAll inside
  | .self s => (unwrappedAll_singleton s).symm
  | .block hbody => by rw [Statement.unwrapped, hbody.unwrappedAll_eq]
  | .ifThen hs => by rw [Statement.unwrapped, hs.unwrapped_eq]
  | .ifElse hs ht => by
    rw [Statement.unwrapped, hs.unwrapped_eq, ht.unwrapped_eq, unwrappedAll_append]

theorem WrapsAll.unwrappedAll_eq {ss inside : List Statement} :
    WrapsAll ss inside → unwrappedAll ss = unwrappedAll inside
  | .nil => rfl
  | .cons hs hrest => by
    rw [unwrappedAll, hs.unwrapped_eq, hrest.unwrappedAll_eq, unwrappedAll_append]

end

mutual

/-- What a statement comes to holds no others, and is wrapped in the statement. -/
theorem Statement.wraps_unwrapped :
    (s : Statement) → Wraps s s.unwrapped ∧ ∀ t ∈ s.unwrapped, t.isNest = false
  | .ifElse s none => by
    obtain ⟨hs, hleaf⟩ := s.wraps_unwrapped
    rw [Statement.unwrapped]
    exact ⟨.ifThen hs, hleaf⟩
  | .ifElse s (some t) => by
    obtain ⟨hs, hleaf⟩ := s.wraps_unwrapped
    obtain ⟨ht, hleaf'⟩ := t.wraps_unwrapped
    rw [Statement.unwrapped]
    exact ⟨.ifElse hs ht, List.forall_mem_append.2 ⟨hleaf, hleaf'⟩⟩
  | .block body => by
    obtain ⟨hbody, hleaf⟩ := wrapsAll_unwrappedAll body
    rw [Statement.unwrapped]
    exact ⟨.block hbody, hleaf⟩
  | .expression _ | .returns _ | .classDecl _ | .exportClass _ | .exportDefaultClass _
  | .exportDefault _ | .exportNames _ _ | .other => by
    rw [Statement.unwrapped_of_isNest_eq_false rfl]
    exact ⟨.self _, List.forall_mem_singleton.2 rfl⟩

/-- **Every list of statements is a wrapping of what it comes to.** -/
theorem wrapsAll_unwrappedAll :
    (ss : List Statement) →
      WrapsAll ss (unwrappedAll ss) ∧ ∀ t ∈ unwrappedAll ss, t.isNest = false
  | [] => ⟨.nil, List.forall_mem_nil _⟩
  | s :: ss => by
    obtain ⟨hs, hleaf⟩ := s.wraps_unwrapped
    obtain ⟨hss, hleaf'⟩ := wrapsAll_unwrappedAll ss
    rw [unwrappedAll]
    exact ⟨.cons hs hss, List.forall_mem_append.2 ⟨hleaf, hleaf'⟩⟩

end

end Script

/-! ## Calls of the registry -/

/-- The ways to name the registry: by itself, or from the global object under either name. -/
inductive NamesRegistry : Expr → Prop where
  | own : NamesRegistry (.identifier "customElements")
  | ofWindow : NamesRegistry (.member (.identifier "window") "customElements")
  | ofGlobal : NamesRegistry (.member (.identifier "globalThis") "customElements")

/-- **The calls that register a class**: by its name, under a tag that is a string; more arguments
may follow. -/
inductive Registers : Statement → Registration → Prop where
  | define {registry : Expr} (hregistry : NamesRegistry registry) (tag name : String)
      (more : List Item) :
      Registers (.expression (.call (.member registry "define")
        (.value (.string tag) :: .value (.identifier name) :: more))) ⟨tag, name⟩

/-- **One registration for each statement that makes one**, in order, and no other. -/
inductive Collected : List Statement → List Registration → Prop where
  | nil : Collected [] []
  | made {s : Statement} {r : Registration} {ss : List Statement} {rs : List Registration}
      (hs : Registers s r) (hss : Collected ss rs) : Collected (s :: ss) (r :: rs)
  | passed {s : Statement} {ss : List Statement} {rs : List Registration}
      (hs : ∀ r, ¬Registers s r) (hss : Collected ss rs) : Collected (s :: ss) rs

theorem isRegistry_iff {e : Expr} : isRegistry e = true ↔ NamesRegistry e := by
  constructor
  · intro h
    rw [isRegistry.eq_def] at h
    split at h
    · obtain rfl := beq_iff_eq.1 h
      exact .own
    · rcases Bool.or_eq_true_iff.1 h with h | h
      · obtain rfl := beq_iff_eq.1 h
        exact .ofWindow
      · obtain rfl := beq_iff_eq.1 h
        exact .ofGlobal
    · exact absurd h Bool.false_ne_true
  · rintro (_ | _ | _) <;> rfl

/-- The registration that a statement makes by itself. -/
def ownRegistration? : Statement → Option Registration
  | .expression e => registration? e
  | _ => none

theorem ownRegistration?_eq_some_iff {s : Statement} {r : Registration} :
    ownRegistration? s = some r ↔ Registers s r := by
  constructor
  · intro h
    rw [ownRegistration?.eq_def] at h
    split at h
    · rw [registration?.eq_def] at h
      split at h
      · split at h
        · next hregistry =>
          obtain rfl := Option.some.inj h
          exact .define (isRegistry_iff.1 hregistry) _ _ _
        · exact absurd h (Option.some_ne_none _).symm
      · exact absurd h (Option.some_ne_none _).symm
    · exact absurd h (Option.some_ne_none _).symm
  · rintro ⟨hregistry, tag, name, more⟩
    rw [ownRegistration?, registration?, if_pos (isRegistry_iff.2 hregistry)]

theorem collected_filterMap (ss : List Statement) :
    Collected ss (ss.filterMap ownRegistration?) := by
  induction ss with
  | nil => exact .nil
  | cons s ss ih =>
    rw [List.filterMap_cons]
    cases hs : ownRegistration? s with
    | none =>
      refine .passed (fun r hr => ?_) ih
      rw [ownRegistration?_eq_some_iff.2 hr] at hs
      exact absurd hs (Option.some_ne_none r)
    | some r => exact .made (ownRegistration?_eq_some_iff.1 hs) ih

/-! ## The registrations of a module -/

mutual

theorem registrationsIn_eq :
    (s : Statement) → registrationsIn s = s.unwrapped.filterMap ownRegistration?
  | .ifElse s none => by rw [registrationsIn, Statement.unwrapped, registrationsIn_eq s]
  | .ifElse s (some t) => by
    rw [registrationsIn, Statement.unwrapped, registrationsIn_eq s, registrationsIn_eq t,
      List.filterMap_append]
  | .block body => by rw [registrationsIn, Statement.unwrapped, registrationsInAll_eq body]
  | .expression e => by
    rw [registrationsIn, Statement.unwrapped_of_isNest_eq_false rfl]
    cases h : registration? e <;> simp [ownRegistration?, h]
  | .returns _ | .classDecl _ | .exportClass _ | .exportDefaultClass _ | .exportDefault _
  | .exportNames _ _ | .other => by
    rw [registrationsIn, Statement.unwrapped_of_isNest_eq_false rfl]
    · rfl
    all_goals simp

/-- **Statements register what the calls among them register**, once they are taken apart. -/
theorem registrationsInAll_eq :
    (ss : List Statement) → registrationsInAll ss = (unwrappedAll ss).filterMap ownRegistration?
  | [] => rfl
  | s :: ss => by
    rw [registrationsInAll, unwrappedAll, registrationsIn_eq s, registrationsInAll_eq ss,
      List.filterMap_append]

end

/-- **How the statements of a module are nested does not show in its registrations.**  Put inside
blocks and under conditions in any way and to any depth, statements make the same registrations in
the same order as before.  Taken apart they come to one list of statements that hold no others; and
a module has one registration for each statement of this list that calls the registry by one of its
names with a string and a name, in the order of the list, and no other. -/
theorem registrations_wrapped {ss ws : List Statement} (h : WrapsAll ws ss) :
    (ModuleSurface.of ⟨ws⟩).registrations = (ModuleSurface.of ⟨ss⟩).registrations ∧
    (∃! leaves, WrapsAll ws leaves ∧ ∀ s ∈ leaves, s.isNest = false) ∧
    ∀ leaves, WrapsAll ws leaves → (∀ s ∈ leaves, s.isNest = false) →
      Collected leaves (ModuleSurface.of ⟨ws⟩).registrations := by
  have hleaves : ∀ leaves, WrapsAll ws leaves → (∀ s ∈ leaves, s.isNest = false) →
      leaves = unwrappedAll ws := fun leaves hwraps hleaf => by
    rw [hwraps.unwrappedAll_eq, unwrappedAll_eq_self hleaf]
  refine ⟨?_, ⟨unwrappedAll ws, wrapsAll_unwrappedAll ws, fun l hl => hleaves l hl.1 hl.2⟩, ?_⟩
  · change registrationsInAll ws = registrationsInAll ss
    rw [registrationsInAll_eq, registrationsInAll_eq, h.unwrappedAll_eq]
  · intro leaves hwraps hleaf
    obtain rfl := hleaves leaves hwraps hleaf
    change Collected _ (registrationsInAll ws)
    rw [registrationsInAll_eq]
    exact collected_filterMap _

/-- The statement that registers a class by its name, by a call of a registry. -/
def definition (registry : Expr) (tag name : String) : Statement :=
  .expression (.call (.member registry "define") [.value (.string tag), .value (.identifier name)])

/-- Three registrations, the registry named in each of the ways, and a call of something else. -/
def definitions : List Statement :=
  [definition (.identifier "customElements") "x-tab" "Tab",
    definition (.member (.identifier "window") "customElements") "x-bar" "Bar",
    definition (.identifier "elements") "x-tab" "Tab",
    definition (.member (.identifier "globalThis") "customElements") "x-tab" "Tab"]

/-- The same statements: two in the branches of a condition in a block, and the last one in the
other branch of an empty one. -/
def guardedDefinitions : List Statement :=
  [.block [.ifElse (definition (.identifier "customElements") "x-tab" "Tab")
      (some (.block [definition (.member (.identifier "window") "customElements") "x-bar" "Bar"])),
      definition (.identifier "elements") "x-tab" "Tab"],
    .ifElse (.block []) (some (.ifElse
      (definition (.member (.identifier "globalThis") "customElements") "x-tab" "Tab") none))]

theorem registrations_wrapped_guardedDefinitions :
    WrapsAll guardedDefinitions definitions ∧
      (ModuleSurface.of ⟨guardedDefinitions⟩).registrations
        = [⟨"x-tab", "Tab"⟩, ⟨"x-bar", "Bar"⟩, ⟨"x-tab", "Tab"⟩] ∧
      Collected definitions [⟨"x-tab", "Tab"⟩, ⟨"x-bar", "Bar"⟩, ⟨"x-tab", "Tab"⟩] := by
  have hwraps : WrapsAll guardedDefinitions definitions :=
    (wrapsAll_unwrappedAll guardedDefinitions).1
  obtain ⟨hsame, -, hcollected⟩ := registrations_wrapped hwraps
  have hregistrations : (ModuleSurface.of ⟨definitions⟩).registrations
      = [⟨"x-tab", "Tab"⟩, ⟨"x-bar", "Bar"⟩, ⟨"x-tab", "Tab"⟩] := by decide
  rw [hregistrations] at hsame
  exact ⟨hwraps, hsame, hsame ▸ hcollected definitions hwraps (by decide)⟩

end ElementBindings
