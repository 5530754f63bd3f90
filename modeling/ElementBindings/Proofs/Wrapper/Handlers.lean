import ElementBindings.Proofs.Element.DocTags
import ElementBindings.Proofs.Element.Properties
import ElementBindings.Proofs.Text.Case
import ElementBindings.Proofs.Text.Identifiers
import ElementBindings.Proofs.Wrapper.Derivation

/-!
# Proofs/Wrapper/Handlers — which handlers can be bound as they are

A handler is `on` and the words of an event name, so it can be bound as it is just when all
characters of the name separate words or may stand in an identifier (`isBindable_handlerName_iff`).
Documented names have no others (`isEventNameChar_of_mem_ofRegion`); what a static entry or a
dispatch site quotes may have any (`handlers_bindable_iff`).
-/

namespace ElementBindings

open Script

/-! ## Handlers -/

namespace Text

/-- The characters of an event name that become part of a handler, or part its words. -/
theorem separatesWords_or_isIdentifierChar_iff {c : Char} :
    separatesWords c = true ∨ isIdentifierChar c = true ↔ isEventNameChar c = true ∨ c = '$' := by
  have hunderscore : c = '_' → isWord c = true := by
    rintro rfl
    decide
  simp only [separatesWords, isIdentifierChar, isEventNameChar, Bool.or_eq_true, beq_iff_eq]
  tauto

/-- No reserved word begins like a handler. -/
theorem on_notMem_reservedWords (cs : List Char) :
    String.ofList ('o' :: 'n' :: cs) ∉ reservedWords := by
  have hall : ∀ word ∈ reservedWords, word.toList.take 2 ≠ ['o', 'n'] := by decide
  intro h
  refine hall _ h ?_
  rw [String.toList_ofList]
  rfl

theorem isBindable_on_iff {cs : List Char} :
    isBindable (String.ofList ('o' :: 'n' :: cs)) = true
      ↔ ∀ d ∈ cs, isIdentifierChar d = true := by
  have ho : ('o'.isAlpha || 'o' == '_' || 'o' == '$') = true := by decide
  have hn : isIdentifierChar 'n' = true := by decide
  rw [isBindable_iff, and_iff_left (on_notMem_reservedWords cs), String.toList_ofList,
    isIdentifier_cons_iff, and_iff_right ho, List.forall_mem_cons, and_iff_right hn]

/-- **A handler can be bound as it is just when the name of its event has characters of
identifiers and separators of words only.** -/
theorem isBindable_handlerName_iff {event : String} :
    isBindable (handlerName event) = true
      ↔ ∀ c ∈ event.toList, isEventNameChar c = true ∨ c = '$' := by
  have hname : handlerName event
      = String.ofList ('o' :: 'n' :: pascal separatesWords event.toList) := by
    rw [handlerName, ← String.toList_inj]
    simp
  have hwords : ∀ c, isWord c = true → isIdentifierChar c = true := fun c hc => by
    rw [isIdentifierChar, hc, Bool.true_or]
  rw [hname, isBindable_on_iff, forall_mem_pascal_iff hwords]
  exact forall₂_congr fun c _ => separatesWords_or_isIdentifierChar_iff

end Text

/-! ## Documented events -/

theorem isEventNameChar_of_name? {cs name rest : List Char}
    (h : Text.name? isEventNameChar cs = some (name, rest)) :
    ∀ c ∈ (String.ofList name).toList, isEventNameChar c = true := by
  rw [String.toList_ofList]
  exact Text.forall_of_name? (fun c hc => by simp [isEventNameChar, hc]) h

/-- **The documentation of a class names its events with characters of event names.** -/
theorem isEventNameChar_of_mem_ofRegion {region : String} {e : Event}
    (h : e ∈ (ClassDoc.ofRegion region).events) :
    ∀ c ∈ e.name.toList, isEventNameChar c = true := by
  obtain ⟨place, rest, hread⟩ := exists_eventTag?_of_mem_ofRegion h
  obtain ⟨_, -, _, _, -, -, _, _, hname, hevent, -⟩ := exists_of_eventTag? hread
  rw [hevent]
  exact isEventNameChar_of_name? hname

/-! ## The handlers of wrappers -/

/-- **An event of a class whose handler cannot be bound is one that a static entry or a dispatch
site names.** -/
theorem ClassSurface.mem_of_isBindable_eq_false {kind : ExportKind} {c : ClassDecl}
    {s : ClassSurface} (hs : ClassSurface.of? kind c = some s) {event : String}
    (h : event ∈ s.events.map (·.name))
    (hfree : Text.isBindable (Text.handlerName event) = false) :
    event ∈ s.staticEvents ∨ event ∈ s.dispatched.map (·.name) := by
  obtain ⟨name, -, rfl⟩ := Option.map_eq_some_iff.1 hs
  rw [map_name_events, List.mem_eraseDups, sightings, List.map_append, List.map_append,
    List.mem_append, List.mem_append] at h
  rcases h with (h | h) | h
  · -- a documented name
    obtain ⟨e, he, rfl⟩ := List.mem_map.1 h
    have hchars := isEventNameChar_of_mem_ofRegion he
    rw [Text.isBindable_handlerName_iff.2 fun c hc => Or.inl (hchars c hc)] at hfree
    exact absurd hfree (by decide)
  · left
    simpa using h
  · exact Or.inr h

variable {r : WrapRules} {path : Path} {source : String} {es : List Element} {ws : List Wrapper}

/-- **Properties can be bound as they are, and handlers if the names of their events allow it.**  In
the wrappers of a source, a handler can be bound just when the name of its event has characters of
identifiers and separators of words only; where it cannot, a static entry or a dispatch site of the
class has quoted that name. -/
theorem handlers_bindable_iff (h : elementsOf path source = .ok es)
    (hws : r.wrappers ⟨es⟩ = .ok ws) {w : Wrapper} (hw : w ∈ ws) :
    (∀ p ∈ w.properties, Text.isBindable p.name = true) ∧
    (∀ b ∈ w.events, Text.isBindable b.handler = true
      ↔ ∀ c ∈ b.name.toList, isEventNameChar c = true ∨ c = '$') ∧
    ∃ c ∈ classesOf path source, ∃ kind s, ClassSurface.of? kind c = some s ∧
      s.name = w.className ∧
      ∀ b ∈ w.events, Text.isBindable b.handler = false →
        b.name ∈ s.staticEvents ∨ b.name ∈ s.dispatched.map (·.name) := by
  obtain ⟨e, he, hwrap⟩ :=
    WrapRules.exists_isWrapperOf_of_mem (WrapRules.wrappers_eq_ok_iff.1 hws).1 hw
  obtain ⟨c, hc, kind, s, hs, hshows⟩ := exists_shows_of_mem h he
  have hbound : ∀ b ∈ w.events,
      b.handler = Text.handlerName b.name ∧ b.name ∈ s.events.map (·.name) := by
    intro b hb
    rw [hwrap.events, hshows.events] at hb
    obtain ⟨d, hd, rfl⟩ := List.mem_map.1 hb
    exact ⟨rfl, List.mem_map_of_mem hd⟩
  refine ⟨fun p hp => ?_, fun b hb => ?_, c, hc, kind, s, hs, ?_, fun b hb hfree => ?_⟩
  · rw [hwrap.properties, hshows.properties] at hp
    obtain ⟨name, -, rfl⟩ := Option.map_eq_some_iff.1 hs
    exact Draft.isBindable_of_mem_properties hp
  · rw [(hbound b hb).1]
    exact Text.isBindable_handlerName_iff
  · rw [hwrap.className, hshows.className]
  · rw [(hbound b hb).1] at hfree
    exact ClassSurface.mem_of_isBindable_eq_false hs (hbound b hb).2 hfree

/-- A class that documents one event and dispatches another one. -/
def menuSource : String :=
  "/** @fires menu-open */ @customElement(\"x-menu\") class Menu \x7b " ++
    "@property() label; close() \x7b this.dispatchEvent(new Event(\"menu/close\")) \x7d \x7d"

/-- Its element. -/
def menuElement : Element :=
  ⟨"x-menu", "Menu", .none, ⟨"menu.ts"⟩, [⟨"label", "unknown", false, none, false, some "label"⟩],
    [⟨"menu-open", none⟩, ⟨"menu/close", none⟩], [], none⟩

/-- The wrapper of the element, if its package publishes the class. -/
def menuWrapper : Wrapper :=
  ⟨"Menu", "x-menu", "Menu", .none, "Menu", menuElement.properties,
    [⟨⟨"menu-open", none⟩, "onMenuOpen"⟩, ⟨⟨"menu/close", none⟩, "onMenu/close"⟩], [], none⟩

theorem elementsOf_menuSource : elementsOf ⟨"menu.ts"⟩ menuSource = .ok [menuElement] := by
  rw [← Except.toOption_eq_some]
  decide +kernel

theorem wrappers_menuElement :
    WrapRules.wrappers ⟨"x-", .strict, .published some⟩ ⟨[menuElement]⟩ = .ok [menuWrapper] := by
  decide +kernel

theorem handlers_bindable_menu :
    elementsOf ⟨"menu.ts"⟩ menuSource = .ok [menuElement] ∧
      WrapRules.wrappers ⟨"x-", .strict, .published some⟩ ⟨[menuElement]⟩ = .ok [menuWrapper] ∧
      menuWrapper ∈ [menuWrapper] ∧ Text.isBindable "label" = true ∧
      Text.isBindable "onMenuOpen" = true ∧
      ∃ c ∈ classesOf ⟨"menu.ts"⟩ menuSource, ∃ kind s, ClassSurface.of? kind c = some s ∧
        s.name = "Menu" ∧
        ("menu/close" ∈ s.staticEvents ∨ "menu/close" ∈ s.dispatched.map (·.name)) := by
  obtain ⟨hproperties, hhandlers, c, hc, kind, s, hs, hname, hquoted⟩ :=
    handlers_bindable_iff elementsOf_menuSource wrappers_menuElement List.mem_cons_self
  have hchars : "menu-open".toList.all isEventNameChar = true := by decide
  have hopen := (hhandlers ⟨⟨"menu-open", none⟩, "onMenuOpen"⟩ (by decide)).2
    fun c hc => Or.inl (List.all_eq_true.1 hchars c hc)
  exact ⟨elementsOf_menuSource, wrappers_menuElement, List.mem_cons_self,
    hproperties _ List.mem_cons_self, hopen, c, hc, kind, s, hs, hname,
    hquoted ⟨⟨"menu/close", none⟩, "onMenu/close"⟩ (by decide) (by decide)⟩

/-- **A dispatch site may quote a name whose handler is no identifier.** -/
theorem handlers_not_bindable :
    elementsOf ⟨"menu.ts"⟩ menuSource = .ok [menuElement] ∧
      WrapRules.wrappers ⟨"x-", .strict, .published some⟩ ⟨[menuElement]⟩ = .ok [menuWrapper] ∧
      ∃ b ∈ menuWrapper.events, Text.isBindable b.handler = false :=
  ⟨elementsOf_menuSource, wrappers_menuElement, ⟨⟨"menu/close", none⟩, "onMenu/close"⟩, by decide,
    by decide⟩

end ElementBindings
