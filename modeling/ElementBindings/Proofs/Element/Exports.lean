import ElementBindings.Proofs.Element.Classes

/-!
# Proofs/Element/Exports — how a class can be imported

A class is exported as its own statement exports it, or else as the first later export of its name
does (`exportKind_cases`).  What a module exports as a value is read off its statements
(`Module.valueExports`); a later export is one of a value, or of a type only (`mem_laterExports`).
So the export of a class is misread in two ways and no other (`exportKind_sound_iff`): where only the
type of the class is exported, and where the default export is its name in parentheses or under a
type.
-/

namespace ElementBindings

open Script

/-! ## What a module exports -/

namespace Script

/-- The variable whose value an expression has: a name, also in parentheses, under a type, or
assigned to something. -/
def Expr.variableName? : Expr → Option String
  | .identifier s => some s
  | .parenthesized e | .asType e | .typed e | .instantiation e | .assign _ e => e.variableName?
  | _ => none

namespace Statement

/-- **The values that a statement exports**: each with its name elsewhere, and its name here. -/
def valueExports : Statement → List (String × String)
  | .exportClass c => (c.name.map fun name => (name, name)).toList
  | .exportDefaultClass c => (c.name.map fun name => ("default", name)).toList
  | .exportDefault e => (e.variableName?.map fun name => ("default", name)).toList
  | .exportNames names false =>
    (names.filter (!·.typeOnly)).map fun n => (n.exported, n.localName)
  | _ => []

/-- The names of which a statement exports the type only. -/
def typeExports : Statement → List (String × String)
  | .exportNames names false => (names.filter (·.typeOnly)).map fun n => (n.exported, n.localName)
  | _ => []

/-- Whether a statement exports the value of a variable as default, but not by its bare name. -/
def WrapsDefault (name : String) (s : Statement) : Prop :=
  ∃ e, s = .exportDefault e ∧ e.variableName? = some name ∧ e ≠ .identifier name

end Statement

namespace Module

/-- The values that a module exports. -/
def valueExports (M : Module) : List (String × String) := M.statements.flatMap (·.valueExports)

/-- **Whether a module exports the type of a name, and not its value**, under a given name. -/
def ExportsTypeOnly (M : Module) (exported name : String) : Prop :=
  (exported, name) ∈ M.statements.flatMap (·.typeExports) ∧ (exported, name) ∉ M.valueExports

end Module

end Script

/-- The name under which a class is imported, if it is exported. -/
def ExportKind.exported? (name : String) : ExportKind → Option String
  | .named => some name
  | .byDefault => some "default"
  | .none => .none

/-- **Whether a class can be imported as its surface says**: under its own name, as default, or not
at all. -/
structure ClassSurface.ExportSound (M : Script.Module) (s : ClassSurface) : Prop where
  exported : ∀ exported ∈ s.exportKind.exported? s.name, (exported, s.name) ∈ M.valueExports
  hidden : s.exportKind = .none →
    (s.name, s.name) ∉ M.valueExports ∧ ("default", s.name) ∉ M.valueExports

instance (M : Script.Module) (s : ClassSurface) : Decidable (s.ExportSound M) :=
  decidable_of_iff
    ((∀ exported ∈ s.exportKind.exported? s.name, (exported, s.name) ∈ M.valueExports) ∧
      (s.exportKind = .none →
        (s.name, s.name) ∉ M.valueExports ∧ ("default", s.name) ∉ M.valueExports))
    ⟨fun h => ⟨h.1, h.2⟩, fun h => ⟨h.1, h.2⟩⟩

/-! ## Later exports -/

section LaterExports

variable {s : Statement} {name exported : String} {kind : ExportKind}

/-- An entry of a list exports what it names, under the name that other modules know it by. -/
theorem exported?_of_exportOf? {n : ExportName} (h : exportOf? n = some (name, kind)) :
    n.localName = name ∧ kind.exported? name = some n.exported := by
  rw [exportOf?] at h
  split at h
  · next hdefault =>
    obtain ⟨rfl, rfl⟩ := Prod.mk.inj (Option.some.inj h)
    exact ⟨rfl, congrArg some hdefault.symm⟩
  · split at h
    · next hsame =>
      obtain ⟨rfl, rfl⟩ := Prod.mk.inj (Option.some.inj h)
      exact ⟨rfl, congrArg some hsame.symm⟩
    · exact absurd h (Option.some_ne_none _).symm

/-- No entry that exports a name as itself or as default is passed over. -/
theorem exists_exportOf? {n : ExportName} (h : n.exported = n.localName ∨ n.exported = "default") :
    ∃ kind, exportOf? n = some (n.localName, kind) := by
  rw [exportOf?]
  split
  · exact ⟨_, rfl⟩
  · next hdefault => exact ⟨_, if_pos (h.resolve_right hdefault)⟩

/-- **A later export is one of a value, or of a type only.** -/
theorem mem_laterExports (h : (name, kind) ∈ laterExports s) :
    ∃ exported, kind.exported? name = some exported ∧
      ((exported, name) ∈ s.valueExports ∨ (exported, name) ∈ s.typeExports) := by
  unfold laterExports at h
  split at h
  · next names =>
    obtain ⟨n, hn, hexport⟩ := List.mem_filterMap.1 h
    obtain ⟨rfl, hexported⟩ := exported?_of_exportOf? hexport
    refine ⟨n.exported, hexported, ?_⟩
    cases htype : n.typeOnly with
    | false => exact Or.inl (List.mem_map.2 ⟨n, List.mem_filter.2 ⟨hn, by simp [htype]⟩, rfl⟩)
    | true => exact Or.inr (List.mem_map.2 ⟨n, List.mem_filter.2 ⟨hn, htype⟩, rfl⟩)
  · next other =>
    obtain ⟨rfl, rfl⟩ := Prod.mk.inj (List.mem_singleton.1 h)
    exact ⟨"default", rfl, Or.inl List.mem_cons_self⟩
  · exact absurd h List.not_mem_nil

/-- **Where the value of a name is exported under it or as default**, the statement declares a class
in place, its export is read, or it is a default export that is not read. -/
theorem cases_of_mem_valueExports (h : (exported, name) ∈ s.valueExports)
    (hexported : exported = name ∨ exported = "default") :
    (∃ kind c, declaredClass? s = some (kind, c) ∧ kind ≠ .none ∧ c.name = some name) ∨
      (∃ kind, (name, kind) ∈ laterExports s) ∨ s.WrapsDefault name := by
  unfold Statement.valueExports at h
  split at h
  · next c =>
    obtain ⟨own, hown, heq⟩ := Option.map_eq_some_iff.1 (Option.mem_toList.1 h)
    obtain ⟨-, rfl⟩ := Prod.mk.inj heq
    exact Or.inl ⟨.named, c, rfl, by decide, hown⟩
  · next c =>
    obtain ⟨own, hown, heq⟩ := Option.map_eq_some_iff.1 (Option.mem_toList.1 h)
    obtain ⟨-, rfl⟩ := Prod.mk.inj heq
    exact Or.inl ⟨.byDefault, c, rfl, by decide, hown⟩
  · next e =>
    obtain ⟨own, hown, heq⟩ := Option.map_eq_some_iff.1 (Option.mem_toList.1 h)
    obtain ⟨-, rfl⟩ := Prod.mk.inj heq
    by_cases hbare : e = .identifier own
    · subst hbare
      exact Or.inr (Or.inl ⟨.byDefault, List.mem_cons_self⟩)
    · exact Or.inr (Or.inr ⟨e, rfl, hown, hbare⟩)
  · next names =>
    obtain ⟨n, hn, heq⟩ := List.mem_map.1 h
    obtain ⟨rfl, rfl⟩ := Prod.mk.inj heq
    obtain ⟨kind, hkind⟩ := exists_exportOf? hexported
    exact Or.inr (Or.inl ⟨kind, List.mem_filterMap.2 ⟨n, List.mem_of_mem_filter hn, hkind⟩⟩)
  · exact absurd h List.not_mem_nil

/-- A class that is exported in place is a value that the statement exports. -/
theorem mem_valueExports_of_declaredClass? {c : ClassDecl} (h : declaredClass? s = some (kind, c))
    (hname : c.name = some name) (hexported : kind.exported? name = some exported) :
    (exported, name) ∈ s.valueExports := by
  unfold declaredClass? at h
  split at h
  · obtain ⟨rfl, rfl⟩ := Prod.mk.inj (Option.some.inj h)
    exact absurd hexported (Option.some_ne_none _).symm
  · obtain ⟨rfl, rfl⟩ := Prod.mk.inj (Option.some.inj h)
    simp [Statement.valueExports, hname, ← Option.some.inj hexported]
  · obtain ⟨rfl, rfl⟩ := Prod.mk.inj (Option.some.inj h)
    simp [Statement.valueExports, hname, ← Option.some.inj hexported]
  · exact absurd h (Option.some_ne_none _).symm

end LaterExports

/-! ## The export of a class -/

namespace ClassSurface

/-- A class with one export, if that is of its name and the class is not exported already. -/
def exportedAs (name : String) (kind : ExportKind) (c : ClassSurface) : ClassSurface :=
  if c.name = name ∧ c.exportKind = .none then { c with exportKind := kind } else c

/-- A class with the first of some exports of its name, unless it is exported already. -/
def exportedBy (exports : List (String × ExportKind)) (c : ClassSurface) : ClassSurface :=
  if c.exportKind = .none then { c with exportKind := (exports.lookup c.name).getD .none } else c

@[simp] theorem name_exportedAs (name : String) (kind : ExportKind) (c : ClassSurface) :
    (c.exportedAs name kind).name = c.name := by
  rw [exportedAs]
  split <;> rfl

@[simp] theorem name_exportedBy (exports : List (String × ExportKind)) (c : ClassSurface) :
    (c.exportedBy exports).name = c.name := by
  rw [exportedBy]
  split <;> rfl

theorem exportKind_exportedBy (exports : List (String × ExportKind)) (c : ClassSurface) :
    (c.exportedBy exports).exportKind
      = if c.exportKind = .none then (exports.lookup c.name).getD .none else c.exportKind := by
  rw [exportedBy]
  split <;> rfl

/-- A class is not exported if neither its statement nor a later one exports it. -/
theorem exportKind_exportedBy_eq_none_iff {exports : List (String × ExportKind)}
    (h : ∀ e ∈ exports, e.2 ≠ .none) {c : ClassSurface} :
    (c.exportedBy exports).exportKind = .none ↔
      c.exportKind = .none ∧ exports.lookup c.name = none := by
  rw [exportKind_exportedBy]
  split
  · next hkind =>
    rw [and_iff_right hkind]
    cases hlookup : exports.lookup c.name with
    | none => simp
    | some kind => simpa using h _ (List.mem_of_lookup hlookup)
  · next hkind => simp [hkind]

theorem exportedAs_of_ne {name : String} {c : ClassSurface} (h : c.name ≠ name)
    (kind : ExportKind) : c.exportedAs name kind = c := if_neg fun hc => h hc.1

theorem exportedBy_nil (c : ClassSurface) : c.exportedBy [] = c := by
  rw [exportedBy]
  split
  · next h => rw [List.lookup_nil, Option.getD_none, ← h]
  · rfl

/-- **Of the exports of a class the first counts.** -/
theorem exportedBy_cons {kind : ExportKind} (h : kind ≠ .none) (name : String)
    (exports : List (String × ExportKind)) (c : ClassSurface) :
    c.exportedBy ((name, kind) :: exports) = (c.exportedAs name kind).exportedBy exports := by
  by_cases hkind : c.exportKind = .none
  · by_cases hname : c.name = name
    · -- from here on the class is exported, and later exports pass it over
      simp [exportedBy, exportedAs, hkind, hname, h]
    · have hbeq : (c.name == name) = false := beq_eq_false_iff_ne.2 hname
      rw [exportedAs_of_ne hname, exportedBy, exportedBy, List.lookup_cons, hbeq]
  · have hsame : c.exportedAs name kind = c := if_neg fun hc => hkind hc.2
    rw [hsame, exportedBy, exportedBy, if_neg hkind, if_neg hkind]

end ClassSurface

theorem exportFirst_cons (name : String) (kind : ExportKind) (c : ClassSurface)
    (cs : List ClassSurface) :
    exportFirst name kind (c :: cs)
      = c.exportedAs name kind :: if c.name = name then cs else exportFirst name kind cs := by
  rw [exportFirst, ClassSurface.exportedAs]
  split
  · next hname => simp [hname]
  · next hname => simp [hname]

/-- One more export is that of the first class of its name. -/
theorem find?_exportFirst (name : String) (kind : ExportKind) (cs : List ClassSurface)
    (n : String) :
    (exportFirst name kind cs).find? (·.name == n)
      = (cs.find? (·.name == n)).map (·.exportedAs name kind) := by
  induction cs with
  | nil => rfl
  | cons c cs ih =>
    rw [exportFirst_cons, List.find?_cons, List.find?_cons, ClassSurface.name_exportedAs]
    cases hn : c.name == n with
    | true => rfl
    | false =>
      dsimp only
      split
      · next hname =>
        -- the classes behind have another name than the one that is exported
        cases hfind : cs.find? (·.name == n) with
        | none => rfl
        | some d =>
          have hd := List.find?_some hfind
          have hd : d.name = n := beq_iff_eq.1 hd
          have hne : d.name ≠ name := by
            rw [hd, ← hname]
            exact (beq_eq_false_iff_ne.1 hn).symm
          rw [Option.map_some, ClassSurface.exportedAs_of_ne hne]
      · exact ih

/-- **Later exports are those of the first class of each name.** -/
theorem find?_foldl_exportFirst {exports : List (String × ExportKind)}
    (h : ∀ e ∈ exports, e.2 ≠ .none) (cs : List ClassSurface) (n : String) :
    (exports.foldl (fun cs e => exportFirst e.1 e.2 cs) cs).find? (·.name == n)
      = (cs.find? (·.name == n)).map (·.exportedBy exports) := by
  induction exports generalizing cs with
  | nil => simp [ClassSurface.exportedBy_nil]
  | cons e exports ih =>
    obtain ⟨he, hexports⟩ := List.forall_mem_cons.1 h
    rw [List.foldl_cons, ih hexports, find?_exportFirst, Option.map_map]
    exact congrArg (Option.map · _) (funext fun c => (c.exportedBy_cons he e.1 exports).symm)

/-! ## The classes of a module -/

section Classes

variable {M : Script.Module} {s : ClassSurface} {exported : String}

/-- What is exported later is exported somehow. -/
theorem ne_none_of_mem_laterExports {e : String × ExportKind}
    (h : e ∈ M.statements.flatMap laterExports) : e.2 ≠ .none := by
  obtain ⟨st, -, he⟩ := List.mem_flatMap.1 h
  obtain ⟨exported, hexported, -⟩ := mem_laterExports he
  rintro hnone
  rw [hnone] at hexported
  exact absurd hexported (Option.some_ne_none _).symm

variable (hnames : ((ModuleSurface.of M).classes.map (·.name)).Nodup)
include hnames

/-- **A class is exported as its statement exports it, or else as the first later export of its name
does.** -/
theorem exists_exportedBy (h : s ∈ (ModuleSurface.of M).classes) :
    ∃ d ∈ M.declared, s = d.exportedBy (M.statements.flatMap laterExports) := by
  have hfind : (ModuleSurface.of M).classes.find? (·.name == s.name)
      = (M.declared.find? (·.name == s.name)).map
        (·.exportedBy (M.statements.flatMap laterExports)) :=
    find?_foldl_exportFirst (fun e he => ne_none_of_mem_laterExports he) _ _
  rw [List.find?_of_nodup_map hnames h] at hfind
  obtain ⟨d, hd, hs⟩ := Option.map_eq_some_iff.1 hfind.symm
  exact ⟨d, List.mem_of_find?_eq_some hd, hs.symm⟩

/-- **What a class is said to be exported as is exported**, as a value or as a type only. -/
theorem exported_mem (h : s ∈ (ModuleSurface.of M).classes)
    (hexported : s.exportKind.exported? s.name = some exported) :
    (exported, s.name) ∈ M.valueExports ∨
      (exported, s.name) ∈ M.statements.flatMap (·.typeExports) := by
  obtain ⟨d, hd, rfl⟩ := exists_exportedBy hnames h
  rw [ClassSurface.name_exportedBy] at hexported ⊢
  rw [ClassSurface.exportKind_exportedBy] at hexported
  split at hexported
  · next hkind =>
    cases hlookup : (M.statements.flatMap laterExports).lookup d.name with
    | none => exact absurd (hlookup ▸ hexported) (Option.some_ne_none _).symm
    | some kind =>
      obtain ⟨st, hst, hlater⟩ := List.mem_flatMap.1 (List.mem_of_lookup hlookup)
      obtain ⟨other, hother, hmem⟩ := mem_laterExports hlater
      rw [hlookup, Option.getD_some, hother] at hexported
      rw [← Option.some.inj hexported]
      exact hmem.imp (fun h => List.mem_flatMap.2 ⟨st, hst, h⟩)
        fun h => List.mem_flatMap.2 ⟨st, hst, h⟩
  · obtain ⟨st, hst, c, hc, hname, -⟩ := exists_statement_of_mem hd
    exact Or.inl (List.mem_flatMap.2
      ⟨st, hst, mem_valueExports_of_declaredClass? hc hname hexported⟩)

/-- **A class that is said not to be exported is the value of no export** under its name or as
default, except of a default export that is not its bare name. -/
theorem exists_wrapsDefault (h : s ∈ (ModuleSurface.of M).classes) (hkind : s.exportKind = .none)
    (hmem : (exported, s.name) ∈ M.valueExports)
    (hexported : exported = s.name ∨ exported = "default") :
    ∃ st ∈ M.statements, st.WrapsDefault s.name := by
  obtain ⟨d, hd, rfl⟩ := exists_exportedBy hnames h
  rw [ClassSurface.name_exportedBy] at hmem hexported ⊢
  obtain ⟨hdeclared, hlater⟩ := (ClassSurface.exportKind_exportedBy_eq_none_iff
    fun e he => ne_none_of_mem_laterExports he).1 hkind
  obtain ⟨st, hst, hmem⟩ := List.mem_flatMap.1 hmem
  rcases cases_of_mem_valueExports hmem hexported with
    ⟨kind, c, hc, hplace, hname⟩ | ⟨kind, hmem⟩ | hwraps
  · -- no other class has the name
    obtain ⟨d', hd', hsame, rfl⟩ := exists_declared hst hc hname
    rw [map_name_classes] at hnames
    rw [List.inj_on_of_nodup_map hnames hd' hd hsame] at hplace
    exact absurd hdeclared hplace
  · have hne := List.lookup_eq_none_iff.1 hlater _ (List.mem_flatMap.2 ⟨st, hst, hmem⟩)
    exact absurd rfl (bne_iff_ne.1 hne)
  · exact ⟨st, hst, hwraps⟩

end Classes

/-- **When the export of a class is read as it is.**  In a module that declares no class twice, a class
is said to be imported by its name or as default just when the module exports its value so, and not
to be imported just when it exports it in neither way, but for two cases: an export list names the
type of the class only, and no export its value; and a default export is the name of the class in
parentheses, under a type or behind an assignment, and nothing else exports it. -/
theorem exportKind_sound_iff {M : Script.Module}
    (hnames : ((ModuleSurface.of M).classes.map (·.name)).Nodup) {s : ClassSurface}
    (hs : s ∈ (ModuleSurface.of M).classes) :
    s.ExportSound M ↔
      (∀ exported ∈ s.exportKind.exported? s.name, ¬ M.ExportsTypeOnly exported s.name) ∧
      (s.exportKind = .none → ∀ st ∈ M.statements, ¬ st.WrapsDefault s.name) := by
  constructor
  · rintro ⟨hexported, hhidden⟩
    refine ⟨fun exported hkind htype => htype.2 (hexported exported hkind), ?_⟩
    rintro hkind st hst ⟨e, rfl, hname, -⟩
    have hmem : ("default", s.name) ∈ M.valueExports :=
      List.mem_flatMap.2 ⟨_, hst, by simp [Statement.valueExports, hname]⟩
    exact (hhidden hkind).2 hmem
  · rintro ⟨htype, hwraps⟩
    constructor
    · intro exported hkind
      rcases exported_mem hnames hs hkind with hvalue | hmem
      · exact hvalue
      · exact of_not_not fun hvalue => htype exported hkind ⟨hmem, hvalue⟩
    · intro hkind
      have hnone : ∀ exported, exported = s.name ∨ exported = "default" →
          (exported, s.name) ∉ M.valueExports := by
        intro exported hexported hmem
        obtain ⟨st, hst, h⟩ := exists_wrapsDefault hnames hs hkind hmem hexported
        exact hwraps hkind st hst h
      exact ⟨hnone _ (Or.inl rfl), hnone _ (Or.inr rfl)⟩

/-- A module with a class that two lists export, the first its type only. -/
def pillModule : Script.Module where
  statements := [
    .exportNames [⟨"Pill", "Pill", true⟩] false,
    .exportNames [⟨"Dot", "Dot", false⟩] true,
    .classDecl ⟨some "Pill", [], [], "", "\x7b\x7d"⟩,
    .classDecl ⟨some "Dot", [], [], "", "\x7b\x7d"⟩,
    .exportNames [⟨"Pill", "Tablet", false⟩, ⟨"Pill", "Pill", false⟩] false]

/-- The surface of a class without members. -/
def bareSurface (name : String) (kind : ExportKind) : ClassSurface :=
  ⟨name, kind, none, [], [], [], [], ⟨none, [], []⟩⟩

theorem exportKind_sound_pill :
    ((ModuleSurface.of pillModule).classes.map (·.name)).Nodup ∧
      bareSurface "Pill" .named ∈ (ModuleSurface.of pillModule).classes ∧
      bareSurface "Dot" .none ∈ (ModuleSurface.of pillModule).classes ∧
      (bareSurface "Pill" .named).ExportSound pillModule ∧
      (bareSurface "Dot" .none).ExportSound pillModule := by
  have hnames : ((ModuleSurface.of pillModule).classes.map (·.name)).Nodup := by decide +kernel
  have hpill : bareSurface "Pill" .named ∈ (ModuleSurface.of pillModule).classes := by
    decide +kernel
  have hdot : bareSurface "Dot" .none ∈ (ModuleSurface.of pillModule).classes := by
    decide +kernel
  refine ⟨hnames, hpill, hdot, (exportKind_sound_iff hnames hpill).2 ⟨?_, ?_⟩,
    (exportKind_sound_iff hnames hdot).2 ⟨?_, ?_⟩⟩
  · intro exported hexported htype
    obtain rfl := Option.some.inj hexported
    exact htype.2 (by decide)
  · intro hkind
    exact absurd hkind (by decide)
  · intro exported hexported
    exact absurd hexported (Option.some_ne_none _).symm
  · rintro - st hst ⟨e, rfl, -⟩
    simp [pillModule] at hst

/-- How the classes of a source are said to be imported, and whether they can be. -/
def exportReadings (source : String) : Option (List (ExportKind × Bool)) :=
  (Script.Module.ofSource? (.ofPath ⟨"src/tab.ts"⟩) source).map fun M =>
    (ModuleSurface.of M).classes.map fun s => (s.exportKind, decide (s.ExportSound M))

/-- A source with one class, and an export of it. -/
def tabWith (exportStatement : String) : String :=
  "class Tab extends HTMLElement \x7b\x7d\ncustomElements.define(\"x-tab\", Tab);\n"
    ++ exportStatement

/-- **A class of which only the type is exported is said to be exported by name, and a class that is
exported as default in parentheses not to be exported.** -/
theorem exportKind_misread :
    exportReadings (tabWith "export type \x7b Tab \x7d;\n") = some [(.named, false)] ∧
      exportReadings (tabWith "export default (Tab);\n") = some [(.none, false)] := by
  decide +kernel

end ElementBindings
