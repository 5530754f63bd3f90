import ElementBindings.Proofs.Element.Registration

/-!
# Proofs/Element/Classes — an element shows a class of its source

What statements export later changes nothing else of a class, so every element of a source has the
properties, events and slots of the surface of one class that the source declares
(`exists_shows_of_mem`).  Its events are the sightings of the class, each name once
(`map_name_events`).
-/

namespace ElementBindings

open Script

/-! ## Classes and surfaces -/

/-- The classes that a source declares; none if it cannot be read as a module. -/
def classesOf (path : Path) (source : String) : List ClassDecl :=
  match Script.Module.ofSource? (Dialect.ofPath path) source with
  | some M => M.statements.filterMap fun s => (declaredClass? s).map (·.2)
  | none => []

namespace ClassSurface

/-- **A later export changes the export only.** -/
theorem exists_of_mem_foldl_exportFirst {exports : List (String × ExportKind)}
    {cs : List ClassSurface} {t : ClassSurface}
    (h : t ∈ exports.foldl (fun cs e => exportFirst e.1 e.2 cs) cs) :
    ∃ s ∈ cs, { s with exportKind := t.exportKind } = t := by
  have hmem := List.mem_map_of_mem (f := fun s : ClassSurface => { s with exportKind := .none }) h
  rw [map_foldl_exportFirst fun _ _ => rfl] at hmem
  obtain ⟨s, hs, hst⟩ := List.mem_map.1 hmem
  exact ⟨s, hs, congrArg (fun u : ClassSurface => { u with exportKind := t.exportKind }) hst⟩

/-- The surface of a class is the same for each export but for the export. -/
theorem of?_exportKind {kind kind' : ExportKind} {c : ClassDecl} {s : ClassSurface}
    (h : of? kind c = some s) : of? kind' c = some { s with exportKind := kind' } := by
  obtain ⟨name, hname, rfl⟩ := Option.map_eq_some_iff.1 h
  rw [of?, hname]
  rfl

/-- Whether an element has what the surface of a class shows, however the class is exported. -/
structure Shows (s : ClassSurface) (e : Element) : Prop where
  className : e.className = s.name
  properties : e.properties = s.properties
  events : e.events = s.events
  slots : e.slots = s.slots

theorem shows_element (s : ClassSurface) (tag : String) (source : Path) :
    s.Shows (s.element tag source) := ⟨rfl, rfl, rfl, rfl⟩

end ClassSurface

namespace ModuleSurface

variable {M : Script.Module} {s : ClassSurface}

/-- **Every class of a module's surface is one that a statement declares.** -/
theorem exists_class_of_mem (h : s ∈ (of M).classes) :
    ∃ c ∈ M.statements.filterMap fun s => (declaredClass? s).map (·.2),
      ClassSurface.of? s.exportKind c = some s := by
  obtain ⟨d, hd, hds⟩ := ClassSurface.exists_of_mem_foldl_exportFirst h
  obtain ⟨st, hst, c, hc, -, hof⟩ := exists_statement_of_mem hd
  exact ⟨c, List.mem_filterMap.2 ⟨st, hst, by rw [hc]; rfl⟩,
    (ClassSurface.of?_exportKind hof).trans (congrArg some hds)⟩

/-- **…with its name and its properties.** -/
theorem exists_properties_of_mem (h : s ∈ (of M).classes) :
    ∃ c ∈ M.statements.filterMap fun s => (declaredClass? s).map (·.2), c.name = some s.name ∧
      s.properties = (Draft.ofMembers c.members).properties := by
  obtain ⟨c, hc, hs⟩ := exists_class_of_mem h
  obtain ⟨name, hname, hs⟩ := Option.map_eq_some_iff.1 hs
  rw [← hs]
  exact ⟨c, hc, hname, rfl⟩

end ModuleSurface

/-- **Every element of a source shows a class that the source declares.** -/
theorem exists_shows_of_mem {path : Path} {source : String} {es : List Element}
    (h : elementsOf path source = .ok es) {e : Element} (he : e ∈ es) :
    ∃ c ∈ classesOf path source, ∃ kind s, ClassSurface.of? kind c = some s ∧ s.Shows e := by
  obtain ⟨m, hm, helements⟩ := elementsOf_eq_ok_iff.1 h
  obtain ⟨M, hM, rfl⟩ := Option.map_eq_some_iff.1 hm
  obtain ⟨-, rfl⟩ := ModuleSurface.register_eq_ok_iff.1 helements
  obtain ⟨r, -, hr⟩ := List.mem_filterMap.1 he
  obtain ⟨s, hs, rfl⟩ := Option.map_eq_some_iff.1 hr
  obtain ⟨c, hc, hof⟩ := ModuleSurface.exists_class_of_mem (List.mem_of_find?_eq_some hs)
  refine ⟨c, ?_, s.exportKind, s, hof, s.shows_element r.tag path⟩
  rw [classesOf, hM]
  exact hc

/-! ## Events -/

/-- **One sighting more is one name more**, unless the name is known. -/
theorem map_name_addSighting (e : Event) (es : List Event) :
    (addSighting e es).map (·.name)
      = if e.name ∈ es.map (·.name) then es.map (·.name) else es.map (·.name) ++ [e.name] := by
  induction es with
  | nil => rfl
  | cons d es ih =>
    rw [addSighting]
    split
    · next h => rw [if_pos (by simp [h]), List.map_cons, List.map_cons]
    · next h =>
      rw [List.map_cons, ih, List.map_cons]
      simp only [List.mem_cons, Ne.symm h, false_or]
      split <;> rfl

/-- **The events of a class are its sightings, each name once** and in the order of the first. -/
theorem ClassSurface.map_name_events (s : ClassSurface) :
    s.events.map (·.name) = (s.sightings.map (·.name)).eraseDups := by
  rw [ClassSurface.events]
  induction s.sightings using List.reverseRecOn with
  | nil => rfl
  | append_singleton before e ih =>
    rw [List.foldl_concat, map_name_addSighting, ih, List.map_append, List.map_singleton,
      List.eraseDups_concat]
    simp only [List.mem_eraseDups]

end ElementBindings
