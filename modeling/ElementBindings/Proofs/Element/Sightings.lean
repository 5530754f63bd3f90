import ElementBindings.Proofs.Element.Classes
import ElementBindings.Proofs.Element.DocTags

/-!
# Proofs/Element/Sightings — what the sightings of a class make of its events and slots

The events of a class are the names of its sightings, each with the first detail that a sighting of
it carries (`events_eq`), and its slots are those of its documentation and what is new in its
templates (`slots_eq`): merging loses nothing and repeats nothing (`element_merged`).

The sightings that are merged are not all that the class has: of its documentation, and of its body,
the first per name is kept beforehand (`firstDetail?_firstPerName`), and a detail that only a later
one carries is gone (`typedSightings_count_iff`).
-/

namespace ElementBindings

open Script

/-! ## Details -/

/-- The detail of the first sighting of a name that carries one. -/
def firstDetail? (name : String) (es : List Event) : Option String :=
  es.findSome? fun e => if e.name = name then e.detail else none

theorem firstDetail?_append (name : String) (xs ys : List Event) :
    firstDetail? name (xs ++ ys) = (firstDetail? name xs).or (firstDetail? name ys) :=
  List.findSome?_append

theorem firstDetail?_singleton (name : String) (e : Event) :
    firstDetail? name [e] = if e.name = name then e.detail else none := by
  rw [firstDetail?, List.findSome?_singleton]

/-- A name that is not sighted has no detail. -/
theorem firstDetail?_of_notMem {name : String} {es : List Event} (h : name ∉ es.map (·.name)) :
    firstDetail? name es = none := by
  refine List.findSome?_eq_none_iff.2 fun e he => if_neg ?_
  rintro rfl
  exact h (List.mem_map_of_mem he)

/-- **One sighting more**, where events are told apart by their names: it gives its detail to the
event of its name, if that lacks one. -/
theorem addSighting_map {names : List String} (hnodup : names.Nodup)
    (detail : String → Option String) (e : Event) :
    addSighting e (names.map fun name => ⟨name, detail name⟩)
      = if e.name ∈ names then
          names.map fun name => ⟨name, (detail name).or (if e.name = name then e.detail else none)⟩
        else (names.map fun name => ⟨name, detail name⟩) ++ [e] := by
  induction names with
  | nil => rfl
  | cons name names ih =>
    obtain ⟨hname, hnodup⟩ := List.nodup_cons.1 hnodup
    rw [List.map_cons, addSighting]
    split
    · next heq =>
      obtain rfl : name = e.name := heq
      -- no later event has the name
      have hlater : ∀ later ∈ names, ¬ e.name = later := by
        rintro later hlater rfl
        exact hname hlater
      rw [if_pos List.mem_cons_self, List.map_cons, if_pos rfl, Option.orElse_eq_orElse,
        Option.orElse_eq_or]
      refine congrArg (List.cons _) (List.map_congr_left fun later hmem => ?_)
      rw [if_neg (hlater later hmem), Option.or_none]
    · next hne =>
      have hne : ¬ e.name = name := Ne.symm hne
      rw [ih hnodup]
      simp only [List.mem_cons, hne, false_or]
      split
      · rw [List.map_cons, if_neg hne, Option.or_none]
      · rfl

/-- **Sightings taken in one by one are one event per name**, in the order of the first, each with
the first detail that a sighting of its name carries. -/
theorem foldl_addSighting_eq (es : List Event) :
    es.foldl (fun es e => addSighting e es) []
      = (es.map (·.name)).eraseDups.map fun name => ⟨name, firstDetail? name es⟩ := by
  induction es using List.reverseRecOn with
  | nil => rfl
  | append_singleton before e ih =>
    rw [List.foldl_concat, ih, addSighting_map (List.nodup_eraseDups _), List.map_append,
      List.map_singleton, List.eraseDups_concat]
    simp only [List.mem_eraseDups, firstDetail?_append, firstDetail?_singleton]
    split
    · rfl
    · next hnew =>
      rw [List.map_append, List.map_singleton, firstDetail?_of_notMem hnew, if_pos rfl,
        Option.none_or]
      refine congrArg (· ++ [e]) (List.map_congr_left fun name hname => ?_)
      have hne : ¬ e.name = name := by
        rintro rfl
        exact hnew (List.mem_eraseDups.1 hname)
      rw [if_neg hne, Option.or_none]

namespace ClassSurface

/-- **The events of a class**: the names of its sightings, each with its first detail. -/
theorem events_eq (s : ClassSurface) :
    s.events = (s.sightings.map (·.name)).eraseDups.map
      fun name => ⟨name, firstDetail? name s.sightings⟩ := foldl_addSighting_eq s.sightings

/-- **No detail is replaced by a later one.** -/
theorem detail_of_mem_events {s : ClassSurface} {e : Event} (h : e ∈ s.events) :
    e.detail = firstDetail? e.name s.sightings := by
  rw [events_eq] at h
  obtain ⟨name, -, rfl⟩ := List.mem_map.1 h
  rfl

/-! ## Slots -/

/-- **The slots of a class**: those of its documentation, and what is new in its templates. -/
theorem slots_eq (s : ClassSurface) :
    s.slots = s.doc.slots ++ (s.templateSlots.filter (!s.doc.slots.contains ·)).eraseDups :=
  List.foldl_addNew_eq s.doc.slots s.templateSlots

theorem nodup_slots {s : ClassSurface} (h : s.doc.slots.Nodup) : s.slots.Nodup := by
  rw [slots_eq]
  refine List.nodup_append.2 ⟨h, List.nodup_eraseDups _, ?_⟩
  rintro slot hdoc _ htemplate rfl
  have hnew := (List.mem_filter.1 (List.mem_eraseDups.1 htemplate)).2
  simp [hdoc] at hnew

end ClassSurface

/-! ## Events and slots of an element -/

/-- The surface of a class repeats no slot, neither of its documentation nor of its templates. -/
theorem ClassSurface.nodup_of_mem {M : Script.Module} {s : ClassSurface}
    (h : s ∈ (ModuleSurface.of M).classes) : s.doc.slots.Nodup ∧ s.templateSlots.Nodup := by
  obtain ⟨c, -, hs⟩ := ModuleSurface.exists_class_of_mem h
  obtain ⟨name, -, hs⟩ := Option.map_eq_some_iff.1 hs
  rw [← hs]
  exact ⟨List.nodup_eraseDups _, List.nodup_eraseDups _⟩

/-- **Merging loses nothing and repeats nothing.**  The events of an element are those of the
documentation, of the static entries and of the dispatch sites of its class, each name once and in
that order, with the first detail that is stated for it; its slots are those of the documentation and
then those of the templates that are new, each once. -/
theorem element_merged (s : ClassSurface) (tag : String) (source : Path) :
    (s.element tag source).events.map (·.name)
        = (s.doc.events.map (·.name) ++ s.staticEvents ++ s.dispatched.map (·.name)).eraseDups ∧
      ((s.element tag source).events.map (·.name)).Nodup ∧
      (∀ e ∈ (s.element tag source).events, e.detail = firstDetail? e.name
        (s.doc.events ++ s.staticEvents.map (⟨·, none⟩) ++ s.dispatched)) ∧
      (s.element tag source).slots
        = s.doc.slots ++ (s.templateSlots.filter (!s.doc.slots.contains ·)).eraseDups ∧
      ∀ M : Script.Module, s ∈ (ModuleSurface.of M).classes →
        (s.element tag source).slots = s.doc.slots ++ s.templateSlots.filter (!s.doc.slots.contains ·) ∧
        (s.element tag source).slots.Nodup := by
  have hnames : (s.element tag source).events.map (·.name)
      = (s.doc.events.map (·.name) ++ s.staticEvents ++ s.dispatched.map (·.name)).eraseDups := by
    refine s.map_name_events.trans ?_
    simp [ClassSurface.sightings, Function.comp_def]
  refine ⟨hnames, hnames ▸ List.nodup_eraseDups _, fun e he => ClassSurface.detail_of_mem_events he,
    s.slots_eq, fun M hM => ?_⟩
  obtain ⟨hdoc, htemplates⟩ := ClassSurface.nodup_of_mem hM
  refine ⟨s.slots_eq.trans ?_, ClassSurface.nodup_slots hdoc⟩
  rw [List.eraseDups_of_nodup (htemplates.filter _)]

/-- A class that names its events and its slots in more ways than one, and some of them twice. -/
def tabsDecl : ClassDecl where
  name := some "Tabs"
  decorators := []
  members := [.field ⟨[], true, .everyone, .name "events", false⟩
    ⟨none, some (.array [.value (.string "close"), .value (.string "close")], ""), false⟩]
  lead := "/**\n * @fires open\n * @slot icon\n * @slot icon\n */"
  body := "new CustomEvent(\"close\"); new CustomEvent<string>(\"open\"); <slot> <slot name='icon'> <slot>"

/-- Its surface. -/
def tabsSurface : ClassSurface :=
  ⟨"Tabs", .none, none, [], ["close", "close"], [⟨"close", some "unknown"⟩, ⟨"open", some "string"⟩],
    ["", "icon"], ⟨none, [⟨"open", none⟩], ["icon"]⟩⟩

theorem element_merged_tabs :
    tabsSurface ∈ (ModuleSurface.of ⟨[.classDecl tabsDecl]⟩).classes ∧
      (tabsSurface.element "x-tabs" ⟨"tabs.ts"⟩).slots = ["icon", ""] ∧
      (tabsSurface.element "x-tabs" ⟨"tabs.ts"⟩).slots.Nodup := by
  have hmem : tabsSurface ∈ (ModuleSurface.of ⟨[.classDecl tabsDecl]⟩).classes := by decide +kernel
  obtain ⟨-, -, -, -, hslots⟩ := element_merged tabsSurface "x-tabs" ⟨"tabs.ts"⟩
  obtain ⟨heq, hnodup⟩ := hslots _ hmem
  exact ⟨hmem, heq.trans (by decide), hnodup⟩

example : (tabsSurface.element "x-tabs" ⟨"tabs.ts"⟩).events
    = [⟨"open", some "string"⟩, ⟨"close", some "unknown"⟩] := by decide

/-! ## Raw sightings -/

namespace Script.ClassDecl

/-- The events that the documentation of a class names, line by line. -/
def docSightings (c : ClassDecl) : List Event := (docTags c.lead).filterMap DocTag.event?

/-- **Wherever a class speaks of an event**, as often as it does: in a line of its documentation, in
a static entry, at a dispatch site. -/
def sightings (c : ClassDecl) : List Event :=
  c.docSightings ++ (Draft.ofMembers c.members).staticEvents.map (⟨·, none⟩)
    ++ dispatchSites c.body

end Script.ClassDecl

/-- The detail that the first sighting of a name carries. -/
def detailOfFirst? (name : String) (es : List Event) : Option String :=
  (es.find? (·.name == name)).bind (·.detail)

/-- Whether the first sighting of a name carries no detail, but a later one does. -/
def TypedLate (name : String) (es : List Event) : Prop :=
  detailOfFirst? name es = none ∧ firstDetail? name es ≠ none

theorem firstDetail?_cons (name : String) (e : Event) (es : List Event) :
    firstDetail? name (e :: es)
      = (if e.name = name then e.detail else none).or (firstDetail? name es) := by
  rw [← List.singleton_append, firstDetail?_append, firstDetail?_singleton]

theorem firstDetail?_of_detailOfFirst? {name detail : String} {es : List Event}
    (h : detailOfFirst? name es = some detail) : firstDetail? name es = some detail := by
  induction es with
  | nil => exact absurd h (Option.some_ne_none _).symm
  | cons e es ih =>
    rw [detailOfFirst?, List.find?_cons] at h
    rw [firstDetail?_cons]
    by_cases hname : e.name = name
    · rw [beq_iff_eq.2 hname] at h
      have h : e.detail = some detail := h
      rw [if_pos hname, h, Option.some_or]
    · rw [beq_eq_false_iff_ne.2 hname] at h
      rw [if_neg hname, Option.none_or]
      exact ih h

theorem firstPerName_cons (e : Event) (es : List Event) :
    firstPerName (e :: es) = e :: firstPerName (es.filter fun d => d.name ≠ e.name) := by
  rw [firstPerName, List.eraseDupsBy_cons, firstPerName]
  simp only [beq_eq_false_iff_ne]

/-- Among the events of other names, a name is sighted as before, if it is another one. -/
theorem detailOfFirst?_filter (name : String) (e : Event) (es : List Event) :
    detailOfFirst? name (es.filter fun d => d.name ≠ e.name)
      = if e.name = name then none else detailOfFirst? name es := by
  rw [detailOfFirst?, List.find?_filter]
  split
  · next hname =>
    subst hname
    rw [List.find?_eq_none.2 (by simp), Option.bind_none]
  · next hname =>
    refine congrArg (Option.bind · (·.detail)) (congrArg (List.find? · es) ?_)
    funext d
    by_cases hd : d.name = name <;> simp [hd, Ne.symm hname]

/-- **Of the sightings of a name, only the first stays where one is kept of each.** -/
theorem firstDetail?_firstPerName (name : String) :
    ∀ es : List Event, firstDetail? name (firstPerName es) = detailOfFirst? name es
  | [] => rfl
  | e :: es => by
    rw [firstPerName_cons, firstDetail?_cons, firstDetail?_firstPerName name,
      detailOfFirst?_filter, detailOfFirst?, detailOfFirst?, List.find?_cons]
    by_cases hname : e.name = name
    · rw [if_pos hname, if_pos hname, beq_iff_eq.2 hname, Option.or_none]
      rfl
    · rw [if_neg hname, if_neg hname, beq_eq_false_iff_ne.2 hname, Option.none_or]
  termination_by es => es.length
  decreasing_by exact Nat.lt_succ_of_le (List.length_filter_le _ es)

theorem mem_map_name_firstPerName {name : String} :
    ∀ {es : List Event}, name ∈ (firstPerName es).map (·.name) ↔ name ∈ es.map (·.name)
  | [] => Iff.rfl
  | e :: es => by
    rw [firstPerName_cons, List.map_cons, List.mem_cons, mem_map_name_firstPerName, List.map_cons,
      List.mem_cons]
    by_cases hname : name = e.name
    · simp [hname]
    · simp only [hname, false_or, List.mem_map, List.mem_filter, decide_eq_true_eq]
      constructor
      · rintro ⟨d, ⟨hd, -⟩, rfl⟩
        exact ⟨d, hd, rfl⟩
      · rintro ⟨d, hd, rfl⟩
        exact ⟨d, ⟨hd, hname⟩, rfl⟩
  termination_by es => es.length
  decreasing_by exact Nat.lt_succ_of_le (List.length_filter_le _ es)

/-! ## Details found and lost -/

/-- A static entry carries no detail. -/
theorem firstDetail?_static (name : String) (names : List String) :
    firstDetail? name (names.map (⟨·, none⟩)) = none := by
  refine List.findSome?_eq_none_iff.2 fun e he => ?_
  obtain ⟨entry, -, rfl⟩ := List.mem_map.1 he
  exact ite_self none

namespace ClassSurface

variable {kind : ExportKind} {c : ClassDecl} {s : ClassSurface}

/-- **The detail of an event is that of its first line in the documentation, or else that of its first
dispatch site.** -/
theorem detail_eq_of_mem_events (hs : ClassSurface.of? kind c = some s) {e : Event}
    (h : e ∈ s.events) :
    e.detail = (detailOfFirst? e.name c.docSightings).or
      (detailOfFirst? e.name (dispatchSites c.body)) := by
  rw [detail_of_mem_events h]
  obtain ⟨name, -, rfl⟩ := Option.map_eq_some_iff.1 hs
  rw [sightings, firstDetail?_append, firstDetail?_append, firstDetail?_static, Option.or_none]
  exact congrArg₂ Option.or (firstDetail?_firstPerName _ _) (firstDetail?_firstPerName _ _)

/-- **The events of a class are the names that its sightings say.** -/
theorem mem_events_iff (hs : ClassSurface.of? kind c = some s) {name : String} :
    name ∈ s.events.map (·.name) ↔ name ∈ c.sightings.map (·.name) := by
  rw [map_name_events, List.mem_eraseDups]
  obtain ⟨name, -, rfl⟩ := Option.map_eq_some_iff.1 hs
  simp only [sightings, ClassDecl.sightings, List.map_append, List.mem_append]
  exact or_congr (or_congr mem_map_name_firstPerName Iff.rfl) mem_map_name_firstPerName

end ClassSurface

/-- **The first of all details is found** by the first line of the documentation that names the event
and the first site that dispatches it, unless a later one has the detail that the first one lacks. -/
theorem detailOfFirst?_or_eq_iff (c : ClassDecl) (name : String) :
    (detailOfFirst? name c.docSightings).or (detailOfFirst? name (dispatchSites c.body))
        = firstDetail? name c.sightings ↔
      (TypedLate name c.docSightings →
        detailOfFirst? name (dispatchSites c.body) = firstDetail? name c.docSightings) ∧
      (firstDetail? name c.docSightings = none → ¬ TypedLate name (dispatchSites c.body)) := by
  rw [ClassDecl.sightings, firstDetail?_append, firstDetail?_append, firstDetail?_static,
    Option.or_none, TypedLate, TypedLate]
  cases hdoc : detailOfFirst? name c.docSightings with
  | some detail => simp [firstDetail?_of_detailOfFirst? hdoc]
  | none =>
    cases firstDetail? name c.docSightings with
    | some detail => simp
    | none =>
      cases hsite : detailOfFirst? name (dispatchSites c.body) with
      | some detail => simp [firstDetail?_of_detailOfFirst? hsite]
      | none => simp [eq_comm]

/-- **Which typed sightings of an event count.**  The events of an element are the names that its
class says, and each has the detail of the first line of the documentation that names it, or else of
the first site that dispatches it.  That is the first detail of all sightings of the event, in order,
just when no later line and no later site has a detail that the first one lacks. -/
theorem typedSightings_count_iff {path : Path} {source : String} {es : List Element}
    (h : elementsOf path source = .ok es) {e : Element} (he : e ∈ es) :
    ∃ c ∈ classesOf path source, c.name = some e.className ∧
      (∀ name, name ∈ e.events.map (·.name) ↔ name ∈ c.sightings.map (·.name)) ∧
      ∀ d ∈ e.events,
        d.detail = (detailOfFirst? d.name c.docSightings).or
          (detailOfFirst? d.name (dispatchSites c.body)) ∧
        (d.detail = firstDetail? d.name c.sightings ↔
          (TypedLate d.name c.docSightings →
            detailOfFirst? d.name (dispatchSites c.body) = firstDetail? d.name c.docSightings) ∧
          (firstDetail? d.name c.docSightings = none →
            ¬ TypedLate d.name (dispatchSites c.body))) := by
  obtain ⟨c, hc, kind, s, hs, hshows⟩ := exists_shows_of_mem h he
  have hname : c.name = some e.className := by
    obtain ⟨name, hname, rfl⟩ := Option.map_eq_some_iff.1 hs
    exact hname.trans (congrArg some hshows.className.symm)
  refine ⟨c, hc, hname, fun name => ?_, fun d hd => ?_⟩
  · rw [hshows.events]
    exact ClassSurface.mem_events_iff hs
  · rw [hshows.events] at hd
    have hdetail := ClassSurface.detail_eq_of_mem_events hs hd
    refine ⟨hdetail, ?_⟩
    rw [hdetail]
    exact detailOfFirst?_or_eq_iff c d.name

/-- A class that documents one event and dispatches another one that a static entry names. -/
def dialogSource : String :=
  "/** @fires \x7bstring\x7d open */ @customElement(\"x-dialog\") class Dialog \x7b " ++
    "static events = [\"shut\"]; shut() \x7b new CustomEvent<number>(\"shut\") \x7d \x7d"

/-- Its element. -/
def dialogElement : Element :=
  ⟨"x-dialog", "Dialog", .none, ⟨"dialog.ts"⟩, [],
    [⟨"open", some "string"⟩, ⟨"shut", some "number"⟩], [], none⟩

theorem typedSightings_count_dialog :
    elementsOf ⟨"dialog.ts"⟩ dialogSource = .ok [dialogElement] ∧ dialogElement ∈ [dialogElement] ∧
      ∃ c ∈ classesOf ⟨"dialog.ts"⟩ dialogSource, c.name = some "Dialog" ∧
        "shut" ∈ c.sightings.map (·.name) ∧
        some "number" = (detailOfFirst? "shut" c.docSightings).or
          (detailOfFirst? "shut" (dispatchSites c.body)) := by
  have helements : elementsOf ⟨"dialog.ts"⟩ dialogSource = .ok [dialogElement] := by
    rw [← Except.toOption_eq_some]
    decide +kernel
  obtain ⟨c, hc, hname, hnames, hdetails⟩ :=
    typedSightings_count_iff helements List.mem_cons_self
  exact ⟨helements, List.mem_cons_self, c, hc, hname, (hnames _).1 (by decide),
    (hdetails ⟨"shut", some "number"⟩ (by decide)).1⟩

/-- A class that says of two events first that there is one, and then of which type it is. -/
def lateSource : String :=
  "/**\n * @fires change\n * @fires \x7bstring\x7d change\n */\n" ++
    "@customElement(\"x-tab\") class Tab \x7b\n" ++
    "a = new Event(\"open\");\nb = new CustomEvent<number>(\"open\") \x7d"

/-- **A second line and a second site that type an event lose their detail.** -/
theorem typedSightings_lost :
    ∃ es e, elementsOf ⟨"src/tab.ts"⟩ lateSource = .ok es ∧ e ∈ es ∧
      ∃ c ∈ classesOf ⟨"src/tab.ts"⟩ lateSource, c.name = some e.className ∧
        e.events = [⟨"change", none⟩, ⟨"open", none⟩] ∧
        firstDetail? "change" c.sightings = some "string" ∧
        firstDetail? "open" c.sightings = some "number" := by
  refine ⟨[⟨"x-tab", "Tab", .none, ⟨"src/tab.ts"⟩, [], [⟨"change", none⟩, ⟨"open", none⟩], [],
    none⟩], _, ?_, List.mem_cons_self, by decide +kernel⟩
  rw [← Except.toOption_eq_some]
  decide +kernel

end ElementBindings
