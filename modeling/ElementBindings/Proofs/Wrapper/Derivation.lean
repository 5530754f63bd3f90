import ElementBindings.Proofs.Except
import ElementBindings.Wrapper.Basic
import Mathlib.Data.List.Forall2
import Mathlib.Data.List.Induction
import Mathlib.Data.List.Nodup

/-!
# Proofs/Wrapper/Derivation — one wrapper per element, or the first reason why not

`IsWrapperOf` says on its own what the wrapper of an element is, and `Refused` why an element is not
wrapped behind those before it.  One step of the derivation decides between the two
(`wrap_eq_ok_iff`, `wrap_eq_error_iff`), and a whole derivation succeeds just when every element has
a wrapper and no two wrappers share a name (`wrappers_eq_ok_iff`).
-/

namespace ElementBindings

/-! ## Handlers -/

/-- An event with the handler that it is bound to. -/
def Event.bound (e : Event) : BoundEvent := ⟨e, Text.handlerName e.name⟩

/-- Whether a handler is called like a property, or like the handler of one of some events. -/
def HandlerTaken (properties : List Property) (events : List Event) (handler : String) : Prop :=
  (∃ p ∈ properties, p.name = handler) ∨ ∃ e ∈ events, e.bound.handler = handler

/-- Whether the handlers of some events differ from each other and from the properties. -/
def HandlersFree (properties : List Property) (events : List Event) : Prop :=
  (events.map (·.bound.handler)).Nodup ∧ ∀ e ∈ events, ∀ p ∈ properties, p.name ≠ e.bound.handler

theorem HandlersFree.nil (properties : List Property) : HandlersFree properties [] :=
  ⟨List.nodup_nil, fun _ h => absurd h (by simp)⟩

/-- **One event more is free when its handler is not taken.** -/
theorem handlersFree_concat_iff {properties : List Property} {events : List Event} {e : Event} :
    HandlersFree properties (events ++ [e])
      ↔ HandlersFree properties events ∧ ¬ HandlerTaken properties events e.bound.handler := by
  rw [HandlersFree, HandlersFree, List.map_append, List.nodup_append]
  constructor
  · rintro ⟨⟨hnodup, -, hne⟩, hfree⟩
    refine ⟨⟨hnodup, fun d hd => hfree d (List.mem_append_left [e] hd)⟩, ?_⟩
    rintro (⟨p, hp, hname⟩ | ⟨d, hd, hhandler⟩)
    · exact hfree e (List.mem_append_right events (List.mem_singleton_self e)) p hp hname
    · exact hne _ (List.mem_map_of_mem hd) _ (List.mem_singleton_self _) hhandler
  · rintro ⟨⟨hnodup, hfree⟩, htaken⟩
    refine ⟨⟨hnodup, by simp, fun a ha b hb hab => ?_⟩, fun d hd p hp hname => ?_⟩
    · obtain ⟨d, hd, rfl⟩ := List.mem_map.1 ha
      exact htaken (Or.inr ⟨d, hd, hab.trans (List.mem_singleton.1 hb)⟩)
    · rcases List.mem_append.1 hd with hd | hd
      · exact hfree d hd p hp hname
      · obtain rfl := List.mem_singleton.1 hd
        exact htaken (Or.inl ⟨p, hp, hname⟩)

/-- The test that binding makes on the events bound before. -/
theorem any_handler_iff {properties : List Property} {events : List Event} {handler : String} :
    (properties.any (·.name == handler)
        || (events.map Event.bound).any (·.handler == handler)) = true
      ↔ HandlerTaken properties events handler := by
  rw [Bool.or_eq_true, List.any_eq_true, List.any_map, List.any_eq_true]
  simp only [Function.comp_apply, beq_iff_eq]
  rfl

namespace WrapRules

section Events

variable {wrapper : String} {properties : List Property}

/-- One event bound behind others, unless its handler is taken. -/
def bindEvent (wrapper : String) (properties : List Property) (bound : List BoundEvent)
    (e : Event) : Except WrapError (List BoundEvent) :=
  let handler := Text.handlerName e.name
  if properties.any (·.name == handler) || bound.any (·.handler == handler) then
    .error (.repeatedProp wrapper handler)
  else .ok (bound ++ [⟨e, handler⟩])

/-- Binding goes through the events one by one. -/
theorem bindEvents_eq_foldlM (bound : List BoundEvent) (es : List Event) :
    bindEvents wrapper properties bound es = es.foldlM (bindEvent wrapper properties) bound := by
  induction es generalizing bound with
  | nil => rfl
  | cons e es ih =>
    rw [List.foldlM_cons, bindEvents, bindEvent, ih]
    split <;> rfl

theorem bindEvent_eq_error_iff {before : List Event} {e : Event} {err : WrapError} :
    bindEvent wrapper properties (before.map Event.bound) e = .error err
      ↔ HandlerTaken properties before e.bound.handler ∧
        err = .repeatedProp wrapper e.bound.handler := by
  rw [bindEvent, ← any_handler_iff, Event.bound]
  split
  · next h => rw [and_iff_right h, Except.error.injEq, eq_comm]
  · next h => exact iff_of_false (by simp) fun h' => h h'.1

theorem bindEvent_eq_ok_iff {before : List Event} {e : Event} {bound : List BoundEvent} :
    bindEvent wrapper properties (before.map Event.bound) e = .ok bound
      ↔ ¬ HandlerTaken properties before e.bound.handler ∧
        bound = (before ++ [e]).map Event.bound := by
  rw [bindEvent, ← any_handler_iff, Event.bound]
  split
  · next h => exact iff_of_false (by simp) fun h' => h'.1 h
  · next h => rw [and_iff_right h, Except.ok.injEq, eq_comm, List.map_append]; rfl

/-- **Events are bound when their handlers are free.** -/
theorem bindEvents_eq_ok_iff {es : List Event} {bound : List BoundEvent} :
    bindEvents wrapper properties [] es = .ok bound
      ↔ HandlersFree properties es ∧ bound = es.map Event.bound := by
  rw [bindEvents_eq_foldlM]
  induction es using List.reverseRecOn generalizing bound with
  | nil =>
    exact ⟨fun h => ⟨.nil properties, (Except.ok.inj h).symm⟩, fun h => congrArg _ h.2.symm⟩
  | append_singleton es e ih =>
    rw [Except.foldlM_concat_eq_ok, handlersFree_concat_iff]
    constructor
    · rintro ⟨front, hfront, he⟩
      obtain ⟨hfree, rfl⟩ := ih.1 hfront
      obtain ⟨htaken, hbound⟩ := bindEvent_eq_ok_iff.1 he
      exact ⟨⟨hfree, htaken⟩, hbound⟩
    · rintro ⟨⟨hfree, htaken⟩, hbound⟩
      exact ⟨_, ih.2 ⟨hfree, rfl⟩, bindEvent_eq_ok_iff.2 ⟨htaken, hbound⟩⟩

/-- **…and otherwise the first one whose handler is taken is named.** -/
theorem bindEvents_eq_error_iff {es : List Event} {err : WrapError} :
    bindEvents wrapper properties [] es = .error err
      ↔ ∃ before e after, es = before ++ e :: after ∧ HandlersFree properties before ∧
        HandlerTaken properties before e.bound.handler ∧
        err = .repeatedProp wrapper e.bound.handler := by
  rw [bindEvents_eq_foldlM, Except.foldlM_eq_error]
  constructor
  · rintro ⟨before, e, after, bound, hes, hbefore, he⟩
    rw [← bindEvents_eq_foldlM, bindEvents_eq_ok_iff] at hbefore
    obtain ⟨hfree, rfl⟩ := hbefore
    exact ⟨before, e, after, hes, hfree, bindEvent_eq_error_iff.1 he⟩
  · rintro ⟨before, e, after, hes, hfree, he⟩
    refine ⟨before, e, after, before.map Event.bound, hes, ?_, bindEvent_eq_error_iff.2 he⟩
    rw [← bindEvents_eq_foldlM, bindEvents_eq_ok_iff]
    exact ⟨hfree, rfl⟩

end Events

/-! ## One element -/

/-- **The wrapper of an element**, as its rules and the element alone determine it. -/
structure IsWrapperOf (r : WrapRules) (e : Element) (w : Wrapper) : Prop where
  name : r.wrapperName e.tagName = .ok w.name
  importPath : r.imports.resolve? e w.name = some w.importPath
  tagName : w.tagName = e.tagName
  className : w.className = e.className
  exportKind : w.exportKind = e.exportKind
  properties : w.properties = e.properties
  events : w.events = e.events.map Event.bound
  slots : w.slots = e.slots
  description : w.description = e.description
  handlersFree : HandlersFree e.properties e.events

/-- Whether an element can be wrapped where it stands alone: it has a name, an import path, and
handlers that collide with nothing. -/
def CanWrap (r : WrapRules) (e : Element) : Prop :=
  ∃ name, r.wrapperName e.tagName = .ok name ∧ (r.imports.resolve? e name).isSome = true ∧
    HandlersFree e.properties e.events

/-- **Why an element is not wrapped** behind the wrappers derived before it, and the error that says
so: of several reasons the first in this order. -/
inductive Refused (r : WrapRules) (before : List Wrapper) (e : Element) : WrapError → Prop
  /-- Nothing of the tag is left to name a wrapper by. -/
  | prefixMismatch (h : r.stem? e.tagName = none) :
      Refused r before e (.prefixMismatch e.tagName r.lead)
  | invalidName {stem : String} (hstem : r.stem? e.tagName = some stem)
      (h : Text.isComponentName (Text.pascalCase stem) = false) :
      Refused r before e (.invalidName e.tagName (Text.pascalCase stem))
  | duplicateName {name : String} {first : Wrapper} (hname : r.wrapperName e.tagName = .ok name)
      (h : before.find? (·.name == name) = some first) :
      Refused r before e (.duplicateName name first.tagName e.tagName)
  | unresolvedImport {name : String} (hname : r.wrapperName e.tagName = .ok name)
      (hnew : ∀ w ∈ before, w.name ≠ name) (h : r.imports.resolve? e name = none) :
      Refused r before e (.unresolvedImport e.tagName)
  | repeatedProp {name : String} {front rest : List Event} {d : Event}
      (hname : r.wrapperName e.tagName = .ok name) (hnew : ∀ w ∈ before, w.name ≠ name)
      (hpath : (r.imports.resolve? e name).isSome = true) (hevents : e.events = front ++ d :: rest)
      (hfront : HandlersFree e.properties front)
      (h : HandlerTaken e.properties front d.bound.handler) :
      Refused r before e (.repeatedProp name d.bound.handler)

variable {r : WrapRules} {before : List Wrapper} {e : Element}

theorem wrapperName_eq_ok_iff {tag name : String} :
    r.wrapperName tag = .ok name
      ↔ ∃ stem, r.stem? tag = some stem ∧ name = Text.pascalCase stem ∧
        Text.isComponentName name = true := by
  rw [wrapperName]
  cases h : r.stem? tag with
  | none => simp
  | some stem =>
    simp only
    split
    · next hname =>
      rw [Except.ok.injEq]
      exact ⟨fun h => ⟨stem, rfl, h.symm, h ▸ hname⟩, fun ⟨_, hs, hn, _⟩ => by
        rw [hn, Option.some.inj hs]⟩
    · next hname =>
      refine iff_of_false (by simp) ?_
      rintro ⟨_, hs, rfl, hn⟩
      exact hname (Option.some.inj hs ▸ hn)

/-- Naming fails for want of a stem, or of a component name. -/
theorem wrapperName_eq_error_iff {tag : String} {err : WrapError} :
    r.wrapperName tag = .error err
      ↔ (r.stem? tag = none ∧ err = .prefixMismatch tag r.lead) ∨
        ∃ stem, r.stem? tag = some stem ∧ Text.isComponentName (Text.pascalCase stem) = false ∧
          err = .invalidName tag (Text.pascalCase stem) := by
  rw [wrapperName]
  cases h : r.stem? tag with
  | none =>
    constructor
    · exact fun h => Or.inl ⟨rfl, (Except.error.inj h).symm⟩
    · rintro (⟨-, rfl⟩ | ⟨_, hs, -⟩)
      · rfl
      · exact absurd hs (by simp)
  | some stem =>
    simp only
    constructor
    · intro h
      split at h
      · exact absurd h (by simp)
      · next hname =>
        exact Or.inr ⟨stem, rfl, Bool.eq_false_iff.2 hname, (Except.error.inj h).symm⟩
    · rintro (⟨hs, -⟩ | ⟨_, hs, hname, rfl⟩)
      · exact absurd hs (by simp)
      · rw [← Option.some.inj hs] at hname ⊢
        exact if_neg (Bool.eq_false_iff.1 hname)

/-- The checks of one step, in their order. -/
theorem wrap_eq :
    r.wrap before e = (r.wrapperName e.tagName >>= fun name =>
      match before.find? (·.name == name), r.imports.resolve? e name with
      | some first, _ => .error (.duplicateName name first.tagName e.tagName)
      | none, none => .error (.unresolvedImport e.tagName)
      | none, some importPath => bindEvents name e.properties [] e.events >>= fun events =>
        .ok { name, tagName := e.tagName, className := e.className, exportKind := e.exportKind,
              importPath, properties := e.properties, events, slots := e.slots,
              description := e.description }) := by
  rw [wrap]
  congr 1
  funext name
  cases before.find? (·.name == name) with
  | some first => rfl
  | none => cases r.imports.resolve? e name <;> rfl

theorem find?_name_eq_none_iff {name : String} :
    before.find? (·.name == name) = none ↔ ∀ w ∈ before, w.name ≠ name := by
  rw [List.find?_eq_none]
  exact forall₂_congr fun w _ => by rw [beq_iff_eq]

/-- **An element is wrapped when it has a wrapper of a new name.** -/
theorem wrap_eq_ok_iff {w : Wrapper} :
    r.wrap before e = .ok w ↔ r.IsWrapperOf e w ∧ ∀ v ∈ before, v.name ≠ w.name := by
  rw [wrap_eq, Except.bind_eq_ok]
  constructor
  · rintro ⟨name, hname, h⟩
    split at h
    · exact absurd h (by simp)
    · exact absurd h (by simp)
    · next path hnew hpath =>
      obtain ⟨events, hevents, h⟩ := Except.bind_eq_ok.1 h
      obtain ⟨hfree, rfl⟩ := bindEvents_eq_ok_iff.1 hevents
      obtain rfl := Except.ok.inj h
      exact ⟨⟨hname, hpath, rfl, rfl, rfl, rfl, rfl, rfl, rfl, hfree⟩,
        find?_name_eq_none_iff.1 hnew⟩
  · rintro ⟨h, hnew⟩
    refine ⟨w.name, h.name, ?_⟩
    rw [find?_name_eq_none_iff.2 hnew, h.importPath]
    refine Except.bind_eq_ok.2 ⟨w.events, bindEvents_eq_ok_iff.2 ⟨h.handlersFree, h.events⟩, ?_⟩
    rw [← h.tagName, ← h.className, ← h.exportKind, ← h.properties, ← h.slots, ← h.description]

/-- **…and the error of a step is its first reason to refuse.** -/
theorem wrap_eq_error_iff {err : WrapError} :
    r.wrap before e = .error err ↔ r.Refused before e err := by
  rw [wrap_eq, Except.bind_eq_error]
  constructor
  · rintro (h | ⟨name, hname, h⟩)
    · rcases wrapperName_eq_error_iff.1 h with ⟨hstem, rfl⟩ | ⟨stem, hstem, hname, rfl⟩
      · exact .prefixMismatch hstem
      · exact .invalidName hstem hname
    · split at h
      · next first _ hfirst =>
        obtain rfl := Except.error.inj h
        exact .duplicateName hname hfirst
      · next hnew hpath =>
        obtain rfl := Except.error.inj h
        exact .unresolvedImport hname (find?_name_eq_none_iff.1 hnew) hpath
      · next path hnew hpath =>
        rcases Except.bind_eq_error.1 h with h | ⟨events, -, h⟩
        · obtain ⟨front, d, rest, hevents, hfront, htaken, rfl⟩ := bindEvents_eq_error_iff.1 h
          exact .repeatedProp hname (find?_name_eq_none_iff.1 hnew) (by rw [hpath]; rfl) hevents
            hfront htaken
        · exact absurd h (by simp)
  · intro h
    cases h with
    | prefixMismatch h => exact Or.inl (wrapperName_eq_error_iff.2 (Or.inl ⟨h, rfl⟩))
    | invalidName hstem h =>
      exact Or.inl (wrapperName_eq_error_iff.2 (Or.inr ⟨_, hstem, h, rfl⟩))
    | duplicateName hname h =>
      refine Or.inr ⟨_, hname, ?_⟩
      rw [h]
    | unresolvedImport hname hnew h =>
      refine Or.inr ⟨_, hname, ?_⟩
      rw [find?_name_eq_none_iff.2 hnew, h]
    | repeatedProp hname hnew hpath hevents hfront h =>
      obtain ⟨path, hpath⟩ := Option.isSome_iff_exists.1 hpath
      refine Or.inr ⟨_, hname, ?_⟩
      rw [find?_name_eq_none_iff.2 hnew, hpath]
      exact Except.bind_eq_error.2
        (Or.inl (bindEvents_eq_error_iff.2 ⟨_, _, _, hevents, hfront, h, rfl⟩))

/-! ## Whole manifests -/

/-- One step of a derivation: one wrapper more. -/
def wrapNext (r : WrapRules) (before : List Wrapper) (e : Element) :
    Except WrapError (List Wrapper) :=
  r.wrap before e >>= fun w => .ok (before ++ [w])

theorem wrapNext_eq_ok_iff {ws : List Wrapper} :
    r.wrapNext before e = .ok ws ↔ ∃ w, r.wrap before e = .ok w ∧ ws = before ++ [w] := by
  rw [wrapNext, Except.bind_eq_ok]
  exact exists_congr fun w => and_congr_right fun _ => by rw [Except.ok.injEq, eq_comm]

theorem wrapNext_eq_error_iff {err : WrapError} :
    r.wrapNext before e = .error err ↔ r.Refused before e err := by
  rw [wrapNext, Except.bind_eq_error, wrap_eq_error_iff]
  exact or_iff_left fun ⟨_, _, h⟩ => absurd h (by simp)

/-- A derivation goes through the elements one by one. -/
theorem wrapAll_eq_foldlM (before : List Wrapper) (es : List Element) :
    r.wrapAll before es = es.foldlM r.wrapNext before := by
  induction es generalizing before with
  | nil => rfl
  | cons e es ih =>
    rw [List.foldlM_cons, wrapAll, wrapNext]
    cases r.wrap before e with
    | error err => rfl
    | ok w => exact ih _

theorem wrappers_eq_foldlM (m : Manifest) : r.wrappers m = m.elements.foldlM r.wrapNext [] :=
  wrapAll_eq_foldlM [] m.elements

/-- Behind wrappers of different names, a derivation adds one wrapper per element and keeps the
names different. -/
theorem wrapAll_eq_ok_iff {es : List Element} {ws : List Wrapper} :
    ∀ {before : List Wrapper}, (before.map (·.name)).Nodup →
      (r.wrapAll before es = .ok ws
        ↔ ∃ new, ws = before ++ new ∧ List.Forall₂ r.IsWrapperOf es new ∧
          ((before ++ new).map (·.name)).Nodup) := by
  induction es with
  | nil =>
    intro before hbefore
    rw [wrapAll, Except.ok.injEq]
    constructor
    · rintro rfl
      exact ⟨[], by simp, .nil, by simpa using hbefore⟩
    · rintro ⟨new, rfl, hnew, -⟩
      cases hnew
      simp
  | cons e es ih =>
    intro before hbefore
    rw [wrapAll, Except.bind_eq_ok]
    have happend : ∀ (w : Wrapper) (new : List Wrapper),
        before ++ w :: new = (before ++ [w]) ++ new := fun w new => by simp
    constructor
    · rintro ⟨w, hw, h⟩
      obtain ⟨hwrap, hne⟩ := wrap_eq_ok_iff.1 hw
      have hnodup : ((before ++ [w]).map (·.name)).Nodup := by
        rw [List.map_append, List.nodup_append]
        exact ⟨hbefore, by simp, by simpa using hne⟩
      obtain ⟨new, rfl, hnew, hall⟩ := (ih hnodup).1 h
      exact ⟨w :: new, (happend w new).symm, .cons hwrap hnew, by rwa [happend]⟩
    · rintro ⟨_, rfl, hnew, hall⟩
      obtain _ | ⟨hwrap, hrest⟩ := hnew
      rename_i w new
      rw [happend] at hall
      have hnodup : ((before ++ [w]).map (·.name)).Nodup :=
        (List.nodup_append.1 (List.map_append ▸ hall)).1
      refine ⟨w, wrap_eq_ok_iff.2 ⟨hwrap, ?_⟩, (ih hnodup).2 ⟨new, happend w new, hrest, hall⟩⟩
      rw [List.map_append, List.nodup_append] at hnodup
      simpa using hnodup.2.2

/-- **A derivation succeeds when every element has a wrapper and no two share a name.** -/
theorem wrappers_eq_ok_iff {m : Manifest} {ws : List Wrapper} :
    r.wrappers m = .ok ws
      ↔ List.Forall₂ r.IsWrapperOf m.elements ws ∧ (ws.map (·.name)).Nodup := by
  rw [wrappers, wrapAll_eq_ok_iff (by simp)]
  exact ⟨fun ⟨_, hws, h⟩ => hws ▸ h, fun h => ⟨ws, rfl, h⟩⟩

/-- **…and otherwise the first element that is refused gives the error.** -/
theorem wrappers_eq_error_iff {m : Manifest} {err : WrapError} :
    r.wrappers m = .error err
      ↔ ∃ front e rest ws, m.elements = front ++ e :: rest ∧ r.wrappers ⟨front⟩ = .ok ws ∧
        r.Refused ws e err := by
  simp only [wrappers_eq_foldlM, Except.foldlM_eq_error, wrapNext_eq_error_iff]

/-- One element more is one wrapper more. -/
theorem wrappers_concat_eq_ok_iff {es : List Element} {ws : List Wrapper} :
    r.wrappers ⟨es ++ [e]⟩ = .ok ws
      ↔ ∃ before w, r.wrappers ⟨es⟩ = .ok before ∧ r.wrap before e = .ok w ∧
        ws = before ++ [w] := by
  simp only [wrappers_eq_foldlM, Except.foldlM_concat_eq_ok, wrapNext_eq_ok_iff]
  exact exists_congr fun before => exists_and_left.symm

theorem canWrap_iff : r.CanWrap e ↔ ∃ w, r.IsWrapperOf e w := by
  constructor
  · rintro ⟨name, hname, hpath, hfree⟩
    obtain ⟨path, hpath⟩ := Option.isSome_iff_exists.1 hpath
    exact ⟨⟨name, e.tagName, e.className, e.exportKind, path, e.properties,
      e.events.map Event.bound, e.slots, e.description⟩,
      hname, hpath, rfl, rfl, rfl, rfl, rfl, rfl, rfl, hfree⟩
  · rintro ⟨w, hw⟩
    exact ⟨w.name, hw.name, by rw [hw.importPath]; rfl, hw.handlersFree⟩

theorem exists_forall₂_isWrapperOf {es : List Element} (h : ∀ e ∈ es, r.CanWrap e) :
    ∃ ws, List.Forall₂ r.IsWrapperOf es ws := by
  induction es with
  | nil => exact ⟨[], .nil⟩
  | cons e es ih =>
    obtain ⟨w, hw⟩ := canWrap_iff.1 (h e List.mem_cons_self)
    obtain ⟨ws, hws⟩ := ih fun d hd => h d (List.mem_cons_of_mem e hd)
    exact ⟨w :: ws, .cons hw hws⟩

/-- The names that rules give to elements are those of their wrappers. -/
theorem map_wrapperName_of_forall₂ {es : List Element} {ws : List Wrapper}
    (h : List.Forall₂ r.IsWrapperOf es ws) :
    es.map (fun e => r.wrapperName e.tagName) = (ws.map (·.name)).map .ok := by
  induction h with
  | nil => rfl
  | cons hw _ ih => rw [List.map_cons, List.map_cons, List.map_cons, hw.name, ih]

theorem exists_isWrapperOf_of_mem {es : List Element} {ws : List Wrapper}
    (h : List.Forall₂ r.IsWrapperOf es ws) {w : Wrapper} (hw : w ∈ ws) :
    ∃ e ∈ es, r.IsWrapperOf e w := by
  obtain ⟨i, hi, rfl⟩ := List.getElem_of_mem hw
  have hi' : i < es.length := h.length_eq ▸ hi
  exact ⟨es[i], List.getElem_mem hi', h.get hi' hi⟩

theorem exists_isWrapperOf_of_getElem? {es : List Element} {ws : List Wrapper}
    (h : List.Forall₂ r.IsWrapperOf es ws) {i : ℕ} (he : es[i]? = some e) :
    ∃ w, ws[i]? = some w ∧ r.IsWrapperOf e w := by
  obtain ⟨hi, rfl⟩ := List.getElem?_eq_some_iff.1 he
  have hi' : i < ws.length := h.length_eq ▸ hi
  exact ⟨ws[i], List.getElem?_eq_getElem hi', h.get hi hi'⟩

/-- What the wrappers of a manifest are like, each on its own. -/
theorem IsWrapperOf.wellFormed {w : Wrapper} (h : r.IsWrapperOf e w) :
    Text.isComponentName w.name = true ∧ (w.events.map (·.handler)).Nodup ∧
      ∀ d ∈ w.events, ∀ p ∈ w.properties, p.name ≠ d.handler := by
  obtain ⟨stem, -, -, hname⟩ := wrapperName_eq_ok_iff.1 h.name
  rw [h.events, h.properties, List.map_map]
  refine ⟨hname, h.handlersFree.1, fun d hd => ?_⟩
  obtain ⟨event, hevent, rfl⟩ := List.mem_map.1 hd
  exact h.handlersFree.2 event hevent

/-- **Derivation is one-to-one, in order, and all or nothing.**  Wrappers that are derived are those
of the elements, one by one, with different names and with handlers that collide with nothing; there
are such wrappers as soon as every element has one and their names differ; an error is that of the
first element that is refused; and what is derived from more elements begins with what is derived
from fewer. -/
theorem wrappers_oneToOne_or_refused (r : WrapRules) (m : Manifest) :
    (∀ ws, r.wrappers m = .ok ws →
      List.Forall₂ r.IsWrapperOf m.elements ws ∧ (ws.map (·.name)).Nodup ∧
      ∀ w ∈ ws, Text.isComponentName w.name = true ∧ (w.events.map (·.handler)).Nodup ∧
        ∀ d ∈ w.events, ∀ p ∈ w.properties, p.name ≠ d.handler) ∧
    ((∀ e ∈ m.elements, r.CanWrap e) → (m.elements.map fun e => r.wrapperName e.tagName).Nodup →
      ∃ ws, r.wrappers m = .ok ws) ∧
    (∀ err, r.wrappers m = .error err
      ↔ ∃ front e rest ws, m.elements = front ++ e :: rest ∧ r.wrappers ⟨front⟩ = .ok ws ∧
        r.Refused ws e err) ∧
    ∀ d ws, r.wrappers ⟨m.elements ++ [d]⟩ = .ok ws →
      ∃ before, r.wrappers m = .ok before ∧ before <+: ws := by
  refine ⟨fun ws h => ?_, fun hcan hnames => ?_, fun err => wrappers_eq_error_iff, fun d ws h => ?_⟩
  · obtain ⟨hall, hnodup⟩ := wrappers_eq_ok_iff.1 h
    refine ⟨hall, hnodup, fun w hw => ?_⟩
    obtain ⟨e, -, he⟩ := exists_isWrapperOf_of_mem hall hw
    exact he.wellFormed
  · obtain ⟨ws, hws⟩ := exists_forall₂_isWrapperOf hcan
    rw [map_wrapperName_of_forall₂ hws] at hnames
    exact ⟨ws, wrappers_eq_ok_iff.2 ⟨hws, hnames.of_map _⟩⟩
  · obtain ⟨before, w, hbefore, -, rfl⟩ := wrappers_concat_eq_ok_iff.1 h
    exact ⟨before, hbefore, List.prefix_append before [w]⟩

end WrapRules

end ElementBindings
