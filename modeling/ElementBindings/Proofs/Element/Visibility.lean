import ElementBindings.Proofs.Element.Properties

/-!
# Proofs/Element/Visibility — which names a class keeps to itself

A private or protected member is as if it were not there (`Draft.ofMembers_filter`): nothing is read
of it, so nothing of it is kept out either.  A name that it declares is a property just when the name
is one anyway, by a mark that counts or by a static entry (`Draft.name_mem_properties_iff`).  Of a
name that no public member declares, static entries alone decide
(`Draft.name_mem_properties_iff_of_hidden`).
-/

namespace ElementBindings

open Script

/-! ## Hidden members -/

namespace Script

/-- Whether a member is private or protected. -/
def MemberHead.isRestricted (h : MemberHead) : Bool := h.key.isPrivate || h.access != .everyone

/-- Whether decorators make a member internal state. -/
def MemberHead.isInternal (h : MemberHead) : Bool := (memberOptions? h.decorators).any (·.state)

namespace ClassMember

/-- Whether a member declares a name for the instances of its class. -/
def declares (name : String) (m : ClassMember) : Bool :=
  m.instanceHead?.any fun h => h.key.name? == some name

/-- Whether a member of the instances is private or protected. -/
def isRestricted (m : ClassMember) : Bool := m.instanceHead?.any MemberHead.isRestricted

/-- Whether a member of the instances is private, protected or internal state. -/
def isHidden (m : ClassMember) : Bool :=
  m.instanceHead?.any fun h => h.isRestricted || h.isInternal

end ClassMember

end Script

theorem publicName?_of_isRestricted {h : MemberHead} (hrestricted : h.isRestricted = true) :
    publicName? h = none := by
  refine Option.eq_none_iff_forall_ne_some.2 fun name hname => ?_
  obtain ⟨-, hkey, haccess, -⟩ := publicName?_eq_some_iff.1 hname
  simp [MemberHead.isRestricted, hkey, haccess] at hrestricted

/-- **The mark of a hidden member is internal state.** -/
theorem state_of_isHidden {m : ClassMember} {name : String} {o : PropertyOptions}
    (hmark : m.mark? = some (name, o)) (hhidden : m.isHidden = true) : o.state = true := by
  obtain ⟨head, hhead, hmark⟩ := exists_publicMark?_of_mark? hmark
  obtain ⟨hname, hoptions⟩ := publicMark?_eq_some_iff.1 hmark
  rw [ClassMember.isHidden, hhead, Option.any_some, Bool.or_eq_true] at hhidden
  rcases hhidden with hrestricted | hinternal
  · rw [publicName?_of_isRestricted hrestricted] at hname
    exact absurd hname (Option.some_ne_none _).symm
  · rwa [MemberHead.isInternal, hoptions] at hinternal

theorem declares_of_mark? {m : ClassMember} {name : String} {o : PropertyOptions}
    (hmark : m.mark? = some (name, o)) : m.declares name = true := by
  obtain ⟨head, hhead, hmark⟩ := exists_publicMark?_of_mark? hmark
  obtain ⟨hname, -⟩ := publicMark?_eq_some_iff.1 hmark
  obtain ⟨-, -, -, hkey, -⟩ := publicName?_eq_some_iff.1 hname
  simp [ClassMember.declares, hhead, hkey]

/-- A declaration that counts is that of a member. -/
theorem exists_mark?_of_mem_countedOptions {name : String} {members : List ClassMember}
    {o : PropertyOptions} (h : o ∈ countedOptions name members) :
    ∃ m ∈ members, m.mark? = some (name, o) := by
  rw [← filter_foldl_addMark] at h
  obtain ⟨⟨markName, options⟩, hmark, rfl⟩ := List.mem_map.1 h
  obtain ⟨hmem, hname⟩ := List.mem_filter.1 hmark
  obtain rfl : markName = name := beq_iff_eq.1 hname
  exact exists_mark?_of_mem hmem

/-! ## What hidden members leave behind -/

namespace Draft

/-- **Of a private or protected member nothing is read.** -/
theorem add_of_isRestricted {m : ClassMember} (h : m.isRestricted = true) (d : Draft) :
    d.add m = d := by
  cases m with
  | other => rfl
  | field head b | accessor head b | method head b =>
    rw [ClassMember.isRestricted, ClassMember.instanceHead?] at h
    split at h
    · exact absurd h Bool.false_ne_true
    · next hstatic =>
      have hname := publicName?_of_isRestricted h
      simp [add, hstatic, addField, addAccessorField, addHalf, hname]

/-- **A class is read as if its private and protected members were not there.** -/
theorem ofMembers_filter (members : List ClassMember) :
    ofMembers (members.filter (!·.isRestricted)) = ofMembers members := by
  rw [ofMembers, ofMembers, List.foldl_filter]
  congr 1
  funext d m
  cases hm : m.isRestricted with
  | true => rw [add_of_isRestricted hm]; rfl
  | false => rfl

/-- A decorator makes a name a property where a declaration of it counts that is no internal
state. -/
theorem name_mem_decoratedProperties_iff (members : List ClassMember) (name : String) :
    name ∈ (ofMembers members).decoratedProperties.map (·.name) ↔
      ∃ o ∈ countedOptions name members, o.state = false := by
  rw [← List.count_pos_iff, count_decoratedProperties, List.length_pos_iff_exists_mem]
  simp

/-- **What makes a name a property**: a declaration of it that counts, or a static entry. -/
theorem name_mem_properties_iff (members : List ClassMember) (name : String) :
    name ∈ (ofMembers members).properties.map (·.name) ↔
      (∃ o ∈ countedOptions name members, o.state = false) ∨
        ∃ o, (name, o) ∈ staticEntries members ∧ o.state = false := by
  rw [properties, name_mem_foldl_addStatic_iff, name_mem_decoratedProperties_iff,
    staticOptions_ofMembers]

/-- **Where all members of a name are hidden, only a static entry makes it a property.** -/
theorem name_mem_properties_iff_of_hidden {members : List ClassMember} {name : String}
    (h : ∀ m ∈ members, m.declares name = true → m.isHidden = true) :
    name ∈ (ofMembers members).properties.map (·.name) ↔
      ∃ o, (name, o) ∈ staticEntries members ∧ o.state = false := by
  rw [name_mem_properties_iff]
  refine or_iff_right ?_
  rintro ⟨o, ho, hstate⟩
  obtain ⟨m, hm, hmark⟩ := exists_mark?_of_mem_countedOptions ho
  rw [state_of_isHidden hmark (h m hm (declares_of_mark? hmark))] at hstate
  exact Bool.false_ne_true hstate.symm

end Draft

/-! ## The properties that a module shows -/

/-- **What hides a name of a class.**  The properties that a module shows of a class are those of a
class that it declares, read as if its private and protected members were not there.  A name is one of
them just when a decorated declaration of it counts that is no internal state, or a static entry has
it that is none; so a name whose members are all private, protected or internal state is one just
when such a static entry has it. -/
theorem hidden_mem_properties_iff {M : Script.Module} {s : ClassSurface}
    (h : s ∈ (ModuleSurface.of M).classes) :
    ∃ c ∈ M.statements.filterMap fun s => (declaredClass? s).map (·.2), c.name = some s.name ∧
      s.properties = (Draft.ofMembers (c.members.filter (!·.isRestricted))).properties ∧
      (∀ name, name ∈ s.properties.map (·.name) ↔
        (∃ o ∈ countedOptions name c.members, o.state = false) ∨
          ∃ o, (name, o) ∈ staticEntries c.members ∧ o.state = false) ∧
      ∀ name, (∀ m ∈ c.members, m.declares name = true → m.isHidden = true) →
        (name ∈ s.properties.map (·.name) ↔
          ∃ o, (name, o) ∈ staticEntries c.members ∧ o.state = false) := by
  obtain ⟨c, hc, hname, hproperties⟩ := ModuleSurface.exists_properties_of_mem h
  refine ⟨c, hc, hname, hproperties.trans (by rw [Draft.ofMembers_filter]), ?_⟩
  rw [hproperties]
  exact ⟨fun name => Draft.name_mem_properties_iff c.members name,
    fun name hhidden => Draft.name_mem_properties_iff_of_hidden hhidden⟩

/-- A class with a private field and with internal state, which a static entry names. -/
def panelDecl : ClassDecl where
  name := some "Panel"
  decorators := []
  members := [
    .field ⟨[], true, .everyone, .name "properties", false⟩
      ⟨none, some (.object [.property (.name "open") (.object [])], ""), false⟩,
    .field ⟨[], false, .itself, .name "secret", false⟩ ⟨none, none, false⟩,
    .field ⟨[.call (.identifier "state") []], false, .everyone, .name "open", false⟩
      ⟨some "boolean", none, false⟩]
  lead := ""
  body := ""

/-- Its surface. -/
def panelSurface : ClassSurface :=
  ⟨"Panel", .none, none, [⟨"open", "unknown", false, none, false, some "open"⟩], [], [], [],
    ⟨none, [], []⟩⟩

theorem hidden_mem_properties_panel :
    panelSurface ∈ (ModuleSurface.of ⟨[.classDecl panelDecl]⟩).classes ∧
      (∀ m ∈ panelDecl.members, m.declares "secret" = true → m.isHidden = true) ∧
      "secret" ∉ panelSurface.properties.map (·.name) ∧
      "open" ∈ panelSurface.properties.map (·.name) := by
  have hmem : panelSurface ∈ (ModuleSurface.of ⟨[.classDecl panelDecl]⟩).classes := by
    decide +kernel
  have hsecret : ∀ m ∈ panelDecl.members, m.declares "secret" = true → m.isHidden = true := by
    decide
  obtain ⟨c, hc, -, -, hiff, hhidden⟩ := hidden_mem_properties_iff hmem
  obtain rfl : c = panelDecl := List.mem_singleton.1 hc
  refine ⟨hmem, hsecret, ?_, (hiff "open").2 (Or.inr ⟨.plain, by decide, rfl⟩)⟩
  rw [hhidden "secret" hsecret]
  rintro ⟨o, ho, -⟩
  have hname : "secret" ∈ (staticEntries panelDecl.members).map (·.1) := List.mem_map_of_mem ho
  exact absurd hname (by decide)

/-- A class with private and with internal members, whose names stand elsewhere too. -/
def leakySource : String :=
  "@customElement(\"x-tab\") class Tab \x7b\n" ++
    "static properties = \x7b secret: \x7b\x7d, open: \x7b\x7d \x7d; " ++
    "private secret; @state() open;\n" ++
    "private get label() \x7b\x7d @property() set label(to) \x7b\x7d \x7d"

/-- **A hidden name is a property all the same** where a static entry has it or where the other half of
an accessor pair is decorated. -/
theorem hidden_listed :
    ∃ es e, elementsOf ⟨"src/tab.ts"⟩ leakySource = .ok es ∧ e ∈ es ∧
      ∃ c ∈ classesOf ⟨"src/tab.ts"⟩ leakySource, c.name = some e.className ∧
        ∀ name ∈ ["secret", "open", "label"],
          (∃ m ∈ c.members, m.declares name = true ∧ m.isHidden = true) ∧
            name ∈ e.properties.map (·.name) := by
  refine ⟨[⟨"x-tab", "Tab", .none, ⟨"src/tab.ts"⟩, ["label", "secret", "open"].map
    fun name => ⟨name, "unknown", false, none, false, some name⟩, [], [], none⟩], _, ?_,
    List.mem_cons_self, by decide +kernel⟩
  rw [← Except.toOption_eq_some]
  decide +kernel

end ElementBindings
