import ElementBindings.Proofs.Element.Accessors
import ElementBindings.Proofs.Element.Visibility
import ElementBindings.Proofs.Text.Cutting

/-!
# Proofs/Element/Origins — where the properties of a class come from

Every property is made of what a member declares, or of a name alone (`Draft.exists_isMaterial`), so
it is fit to be written down (`Property.WellFormed`).  Its name is declared as that of a property,
by a decorator or as the key of an object that a static member states — or it is the key of an
object that a static setter returns, which nothing ever sees (`properties_wellFormed`).
-/

namespace ElementBindings

open Script

/-! ## Declarations of properties -/

namespace Script

/-- Whether a decorator is that of a property. -/
def Expr.decoratesProperty : Expr → Bool
  | .identifier name | .call (.identifier name) _ => name == "property"
  | _ => false

/-- The keys of an object literal. -/
def Expr.objectKeys (e : Expr) : List String :=
  ((objectMembers? e).getD []).filterMap fun
    | .property key _ => key.name?
    | .spread _ => none

/-- Whether a member is decorated as a property of some name. -/
def MemberHead.isProperty (name : String) (h : MemberHead) : Bool :=
  !h.computed && h.key.name? == some name && h.decorators.any (·.decoratesProperty)

namespace ClassMember

/-- **Whether a member declares a property of some name**: a member of the instances has the name
and is decorated so; a static one states an object with that key, as the value of a field or as what
a getter or a method returns. -/
def declaresProperty (name : String) : ClassMember → Bool
  | field h b =>
    if h.isStatic then
      h.key.name? == some "properties" && b.initial.any fun (e, _) => e.objectKeys.contains name
    else h.isProperty name
  | accessor h _ => !h.isStatic && h.isProperty name
  | method h b =>
    if h.isStatic then
      h.key.name? == some "properties" && b.kind != .set
        && b.returns.any fun e => e.objectKeys.contains name
    else h.isProperty name
  | other => false

/-- Whether a member is a static setter, of which nobody sees what it returns. -/
def isStaticSetter : ClassMember → Bool
  | method h b => h.isStatic && b.kind == .set
  | _ => false

end ClassMember

end Script

/-- The entries of the static properties that the setters of a class state. -/
def setterEntries (members : List ClassMember) : List (String × PropertyOptions) :=
  staticEntries (members.filter (·.isStaticSetter))

/-- Options that are not those of internal state are given by the decorator of a property. -/
theorem decoratesProperty_of_decoratorOptions? {e : Expr} {o : PropertyOptions}
    (h : decoratorOptions? e = some o) (hstate : o.state = false) :
    e.decoratesProperty = true := by
  have hinternal (h : some PropertyOptions.internal = some o) : False := by
    rw [← Option.some.inj h] at hstate
    exact Bool.false_ne_true hstate.symm
  rw [decoratorOptions?.eq_def] at h
  split at h
  · rfl
  · rfl
  · rfl
  · exact (hinternal h).elim
  · exact (hinternal h).elim
  · exact (hinternal h).elim
  · exact (hinternal h).elim
  · exact absurd h (Option.some_ne_none _).symm

/-- **A mark that is no internal state declares a property.** -/
theorem declaresProperty_of_mark? {m : ClassMember} {name : String} {o : PropertyOptions}
    (h : m.mark? = some (name, o)) (hstate : o.state = false) : m.declaresProperty name = true := by
  obtain ⟨head, hhead, hmark⟩ := exists_publicMark?_of_mark? h
  obtain ⟨hpublic, hoptions⟩ := publicMark?_eq_some_iff.1 hmark
  obtain ⟨hcomputed, -, -, hname, -⟩ := publicName?_eq_some_iff.1 hpublic
  obtain ⟨e, he, hdecorator⟩ := List.exists_of_findSome?_eq_some hoptions
  have hdecorated : head.decorators.any (·.decoratesProperty) = true :=
    List.any_eq_true.2 ⟨e, he, decoratesProperty_of_decoratorOptions? hdecorator hstate⟩
  have hproperty : head.isProperty name = true := by
    simp [MemberHead.isProperty, hcomputed, hname, hdecorated]
  cases m with
  | other => exact absurd hhead (Option.some_ne_none _).symm
  | field own b | accessor own b | method own b =>
    obtain ⟨hstatic, hown⟩ := Option.ite_none_left_eq_some.1 hhead
    obtain rfl := Option.some.inj hown
    simp [ClassMember.declaresProperty, hstatic, hproperty]

/-- Every static entry is a key of its object. -/
theorem mem_objectKeys_of_mem_staticProperties {e : Expr} {name : String} {o : PropertyOptions}
    (h : (name, o) ∈ staticProperties e) : name ∈ e.objectKeys := by
  obtain ⟨member, hmember, hentry⟩ := List.mem_filterMap.1 h
  cases member with
  | spread _ => exact absurd hentry (Option.some_ne_none _).symm
  | property key value =>
    obtain ⟨own, hown, heq⟩ := Option.map_eq_some_iff.1 hentry
    obtain ⟨rfl, -⟩ := Prod.mk.inj heq
    exact List.mem_filterMap.2 ⟨_, hmember, (Option.filter_eq_some_iff.1 hown).1⟩

/-- **The key of an object that a member states declares a property**, unless the member is a
setter. -/
theorem declaresProperty_of_mem_staticObjects {m : ClassMember} {e : Expr} {name : String}
    (h : e ∈ m.staticObjects) (hkey : name ∈ e.objectKeys) (hsetter : m.isStaticSetter = false) :
    m.declaresProperty name = true := by
  cases m with
  | accessor | other => exact absurd h List.not_mem_nil
  | field head b =>
    rw [ClassMember.staticObjects] at h
    split at h
    · next hproperties =>
      obtain ⟨hstatic, hname⟩ := Bool.and_eq_true_iff.1 hproperties
      obtain ⟨⟨own, text⟩, hinitial, rfl⟩ := Option.map_eq_some_iff.1 (Option.mem_toList.1 h)
      simp [ClassMember.declaresProperty, hstatic, hname, hinitial, hkey]
    · exact absurd h List.not_mem_nil
  | method head b =>
    rw [ClassMember.staticObjects] at h
    split at h
    · next hproperties =>
      obtain ⟨hstatic, hname⟩ := Bool.and_eq_true_iff.1 hproperties
      rw [ClassMember.isStaticSetter, hstatic, Bool.true_and, beq_eq_false_iff_ne] at hsetter
      simp only [ClassMember.declaresProperty, hstatic, hname, if_true, bne_iff_ne.2 hsetter,
        Bool.true_and, List.any_eq_true, List.contains_iff_mem]
      exact ⟨e, h, hkey⟩
    · exact absurd h List.not_mem_nil

theorem mem_staticEntries_iff {members : List ClassMember} {entry : String × PropertyOptions} :
    entry ∈ staticEntries members ↔
      ∃ m ∈ members, ∃ e ∈ m.staticObjects, entry ∈ staticProperties e := by
  simp only [staticEntries, List.mem_flatMap]
  constructor
  · rintro ⟨e, ⟨m, hm, he⟩, hentry⟩
    exact ⟨m, hm, e, he, hentry⟩
  · rintro ⟨m, hm, e, he, hentry⟩
    exact ⟨e, ⟨m, hm, he⟩, hentry⟩

/-- **A static entry declares a property, or it is that of a setter.** -/
theorem declaresProperty_of_mem_staticEntries {members : List ClassMember} {name : String}
    {o : PropertyOptions} (h : (name, o) ∈ staticEntries members) :
    (∃ m ∈ members, m.declaresProperty name = true) ∨ (name, o) ∈ setterEntries members := by
  obtain ⟨m, hm, e, he, hentry⟩ := mem_staticEntries_iff.1 h
  cases hsetter : m.isStaticSetter with
  | true =>
    exact Or.inr (mem_staticEntries_iff.2 ⟨m, List.mem_filter.2 ⟨hm, hsetter⟩, e, he, hentry⟩)
  | false =>
    exact Or.inl ⟨m, hm, declaresProperty_of_mem_staticObjects he
      (mem_objectKeys_of_mem_staticProperties hentry) hsetter⟩

/-! ## What properties are made of -/

namespace Script.ClassMember

/-- What a public member declares of itself, decorated or not: a field is declared with its type and
its initial value, half of an accessor pair with its name only. -/
def declared? : ClassMember → Option Declared
  | field h b | accessor h b =>
    if h.isStatic then none else (publicName? h).map (Draft.declared · b)
  | method h b =>
    if h.isStatic || b.kind == .plain then none else (publicName? h).map .bare
  | other => none

/-- An entry is what its member declares. -/
theorem declared?_of_added? {m : ClassMember} {d : Declared} {o : PropertyOptions}
    (h : m.added? = some (d, o)) : m.declared? = some d := by
  cases m with
  | other => exact absurd h (Option.some_ne_none _).symm
  | field head b | accessor head b | method head b =>
    rw [added?] at h
    rw [declared?]
    split at h
    · exact absurd h (Option.some_ne_none _).symm
    · next hskip =>
      obtain ⟨⟨name, options⟩, hmark, heq⟩ := Option.map_eq_some_iff.1 h
      obtain ⟨rfl, -⟩ := Prod.mk.inj heq
      rw [if_neg hskip, (publicMark?_eq_some_iff.1 hmark).1]
      rfl

/-- No literal has the empty type. -/
theorem literalType_ne_of_declared? {m : ClassMember} {d : Declared} (h : m.declared? = some d) :
    d.literalType ≠ some "" := by
  have hliteral (e : Expr) : literalType? e ≠ some "" := by
    rw [literalType?.eq_def]
    split <;> decide
  cases m with
  | other => exact absurd h (Option.some_ne_none _).symm
  | field head b | accessor head b =>
    rw [declared?] at h
    split at h
    · exact absurd h (Option.some_ne_none _).symm
    · obtain ⟨name, -, rfl⟩ := Option.map_eq_some_iff.1 h
      rw [Draft.declared, Ne, Option.bind_eq_some_iff]
      rintro ⟨⟨e, text⟩, -, he⟩
      exact hliteral e he
  | method head b =>
    rw [declared?] at h
    split at h
    · exact absurd h (Option.some_ne_none _).symm
    · obtain ⟨name, -, rfl⟩ := Option.map_eq_some_iff.1 h
      exact Option.some_ne_none _ |>.symm

end Script.ClassMember

/-- **What the properties of a class are made of**: what a member declares, with the first type that
half of an accessor pair of its name states if it has none itself, or a name alone. -/
inductive IsMaterial (members : List ClassMember) : Declared → Prop where
  | member {m : ClassMember} {d : Declared} (hm : m ∈ members) (hd : m.declared? = some d) :
      IsMaterial members
        { d with type := d.type <|> members.findSome? (ClassMember.statedType? d.name) }
  | bare (name : String) : IsMaterial members (.bare name)

namespace Draft

theorem undecorated_addStaticField (d : Draft) (h : MemberHead) (b : FieldBody) :
    (d.addStaticField h b).undecorated = d.undecorated := by
  rw [addStaticField]
  split <;> rfl

theorem undecorated_addStaticMethod (d : Draft) (h : MemberHead) (b : MethodBody) :
    (d.addStaticMethod h b).undecorated = d.undecorated := by
  rw [addStaticMethod]
  split <;> rfl

/-- Half of an accessor pair stands undecorated by its name, if at all. -/
theorem mem_undecorated_addHalf {d : Draft} {h : MemberHead} {b : MethodBody} {entry : Declared}
    (hentry : entry ∈ (d.addHalf h b).undecorated) :
    entry ∈ d.undecorated ∨ b.kind ≠ .plain ∧ (publicName? h).map .bare = some entry := by
  rw [addHalf] at hentry
  split at hentry
  · exact Or.inl hentry
  · next hkind =>
    cases hname : publicName? h with
    | none => exact Or.inl (by simpa only [hname] using hentry)
    | some name =>
      -- the type that the half may state is no entry
      have hentries : entry ∈ d.undecorated ∨ entry ∈ Declared.bare name :: d.undecorated := by
        cases htype : halfType? b <;> cases hoptions : memberOptions? h.decorators <;>
          simp only [hname, htype, hoptions] at hentry <;>
          split at hentry
        any_goals split at hentry
        all_goals first | exact Or.inl hentry | exact Or.inr hentry
      rw [List.mem_cons] at hentries
      rcases hentries with hentry | heq | hentry
      · exact Or.inl hentry
      · exact Or.inr ⟨hkind, congrArg some heq.symm⟩
      · exact Or.inl hentry

/-- A field stands undecorated as it is declared, if at all. -/
theorem mem_undecorated_addField {d : Draft} {h : MemberHead} {b : FieldBody} {entry : Declared}
    (hentry : entry ∈ (d.addField h b).undecorated) :
    entry ∈ d.undecorated ∨ (publicName? h).map (declared · b) = some entry := by
  rw [addField] at hentry
  cases hname : publicName? h with
  | none => exact Or.inl (by simpa only [hname] using hentry)
  | some name =>
    cases hoptions : memberOptions? h.decorators with
    | some o => exact Or.inl (by simpa only [hname, hoptions] using hentry)
    | none =>
      simp only [hname, hoptions, List.mem_cons] at hentry
      exact hentry.symm.imp_right fun heq => congrArg some heq.symm

theorem undecorated_addAccessorField (d : Draft) (h : MemberHead) (b : FieldBody) :
    (d.addAccessorField h b).undecorated = d.undecorated := by
  rw [addAccessorField]
  split <;> rfl

/-- One member more stands undecorated as it is declared, if at all. -/
theorem mem_undecorated_add {d : Draft} {m : ClassMember} {entry : Declared}
    (hentry : entry ∈ (d.add m).undecorated) :
    entry ∈ d.undecorated ∨ m.declared? = some entry := by
  cases m with
  | other => exact Or.inl hentry
  | field head b =>
    rw [add] at hentry
    rw [ClassMember.declared?]
    cases hstatic : head.isStatic with
    | true =>
      rw [hstatic, if_pos rfl, undecorated_addStaticField] at hentry
      exact Or.inl hentry
    | false =>
      rw [hstatic, if_neg Bool.false_ne_true] at hentry
      exact mem_undecorated_addField hentry
  | accessor head b =>
    rw [add] at hentry
    cases hstatic : head.isStatic with
    | true =>
      rw [hstatic, if_pos rfl] at hentry
      exact Or.inl hentry
    | false =>
      rw [hstatic, if_neg Bool.false_ne_true, undecorated_addAccessorField] at hentry
      exact Or.inl hentry
  | method head b =>
    rw [add] at hentry
    rw [ClassMember.declared?]
    cases hstatic : head.isStatic with
    | true =>
      rw [hstatic, if_pos rfl, undecorated_addStaticMethod] at hentry
      exact Or.inl hentry
    | false =>
      rw [hstatic, if_neg Bool.false_ne_true] at hentry
      refine (mem_undecorated_addHalf hentry).imp_right ?_
      rintro ⟨hkind, hname⟩
      rw [if_neg (by simp [hkind]), hname]

/-- An undecorated entry is what a member declares. -/
theorem exists_declared?_of_mem_undecorated {members : List ClassMember} {entry : Declared}
    (h : entry ∈ (ofMembers members).undecorated) :
    ∃ m ∈ members, m.declared? = some entry := by
  have hstep (d : Draft) (m : ClassMember) :
      ∀ entry ∈ (d.add m).undecorated, entry ∈ d.undecorated ∨ m.declared? = some entry :=
    fun _ hentry => mem_undecorated_add hentry
  exact (List.mem_or_exists_of_mem_foldl undecorated hstep h).resolve_left List.not_mem_nil

/-- A declared member has the type that it declares, or else the first that is stated. -/
theorem typed_ofMembers (members : List ClassMember) (d : Declared) :
    (ofMembers members).typed d
      = { d with type := d.type <|> members.findSome? (ClassMember.statedType? d.name) } := by
  rw [typed, lookup_accessorTypes]

/-- The member that a static entry is about is one of the class, or there is none. -/
theorem isMaterial_undecorated? (members : List ClassMember) (name : String) :
    IsMaterial members ((ofMembers members).undecorated? name) := by
  rw [undecorated?]
  split
  · next d hd =>
    obtain ⟨m, hm, hdeclared⟩ := exists_declared?_of_mem_undecorated (List.mem_of_find?_eq_some hd)
    rw [typed_ofMembers]
    exact .member hm hdeclared
  · exact .bare name

/-- **Every property is made of what a member declares**, or of a name alone. -/
theorem exists_isMaterial {members : List ClassMember} {p : Property}
    (h : p ∈ (ofMembers members).properties) :
    ∃ d o, IsMaterial members d ∧ p = d.property o := by
  have hstep (ps : List Property) (entry : String × PropertyOptions) :
      ∀ p ∈ (ofMembers members).addStatic ps entry, p ∈ ps ∨
        p = ((ofMembers members).undecorated? entry.1).property entry.2 := by
    intro p hp
    rw [addStatic] at hp
    split at hp
    · exact Or.inl hp
    · rwa [List.mem_append, List.mem_singleton] at hp
  rcases List.mem_or_exists_of_mem_foldl id hstep h with h | ⟨entry, -, rfl⟩
  · obtain ⟨⟨d, o⟩, hentry, hp⟩ := List.mem_filterMap.1 h
    obtain ⟨-, hp⟩ := Option.ite_none_left_eq_some.1 hp
    obtain ⟨m, hm, hadded⟩ := exists_added?_of_mem_decorated hentry
    rw [typed_ofMembers] at hp
    exact ⟨_, o, .member hm (ClassMember.declared?_of_added? hadded), (Option.some.inj hp).symm⟩
  · exact ⟨_, entry.2, isMaterial_undecorated? members entry.1, rfl⟩

end Draft

/-! ## Well-formed properties -/

/-- No constructor stands for the empty type. -/
theorem typeOfConstructor?_ne (constructor : String) :
    typeOfConstructor? constructor ≠ some "" := by
  rw [typeOfConstructor?.eq_def]
  split <;> decide

theorem IsMaterial.literalType_ne {members : List ClassMember} {d : Declared}
    (h : IsMaterial members d) : d.literalType ≠ some "" := by
  cases h with
  | member _ hd => exact (ClassMember.literalType_ne_of_declared? hd :)
  | bare name => exact (Option.some_ne_none _).symm

/-- **A property has the empty type just when it is declared with a blank one.** -/
theorem Declared.type_property_eq_empty_iff {d : Declared} (h : d.literalType ≠ some "")
    (o : PropertyOptions) :
    (d.property o).type = "" ↔ ∃ text ∈ d.type, ∀ c ∈ text.toList, Text.isBlank c = true := by
  have htrimmed (text : String) :
      Text.trimmed text = "" ↔ ∀ c ∈ text.toList, Text.isBlank c = true := by
    rw [← Text.trim_eq_nil_iff, Text.trimmed, String.ofList_eq_empty_iff]
  rw [property]
  cases d.type with
  | some text => simp [htrimmed]
  | none =>
    have hconstructor : o.constructorName.bind typeOfConstructor? ≠ some "" := by
      rw [Ne, Option.bind_eq_some_iff]
      rintro ⟨constructor, -, heq⟩
      exact typeOfConstructor?_ne constructor heq
    have hget {t u : Option String} (ht : t ≠ some "") (hu : u ≠ some "") :
        (t <|> u).getD "unknown" ≠ "" := by
      cases t <;> cases u <;> simp_all
    simpa using hget hconstructor h

/-- **A property that can be written down** for a class with some members: its name can be bound as
it is and is no reserved word, it has a type unless it is declared with a blank one, it is mirrored
to an attribute only if it has one, and it is required only without an initial value. -/
structure Property.WellFormed (members : List ClassMember) (p : Property) : Prop where
  bindable : Text.isBindable p.name = true
  unreserved : p.name ∉ Text.reservedWords
  type_eq_empty_iff : ∃ d o, IsMaterial members d ∧ p = d.property o ∧
    (p.type = "" ↔ ∃ text ∈ d.type, ∀ c ∈ text.toList, Text.isBlank c = true)
  reflects : p.reflects = true → p.attributeName.isSome = true
  required : p.required = true → p.defaultValue = none

namespace Draft

/-- **Every property of a class is well-formed.** -/
theorem wellFormed_of_mem_properties {members : List ClassMember} {p : Property}
    (h : p ∈ (ofMembers members).properties) : p.WellFormed members := by
  have hbindable := isBindable_of_mem_properties h
  obtain ⟨d, o, hd, rfl⟩ := exists_isMaterial h
  exact {
    bindable := hbindable
    unreserved := by simpa using (Bool.and_eq_true_iff.1 hbindable).2
    type_eq_empty_iff := ⟨d, o, hd, rfl, Declared.type_property_eq_empty_iff hd.literalType_ne o⟩
    reflects := fun hreflects => (Bool.and_eq_true_iff.1 hreflects).2
    required := fun hrequired => Option.isNone_iff_eq_none.1 (Bool.and_eq_true_iff.1 hrequired).2 }

/-- **The name of every property is declared**, or it is that of an entry of a static setter. -/
theorem declaresProperty_or_of_mem_properties {members : List ClassMember} {p : Property}
    (h : p ∈ (ofMembers members).properties) :
    (∃ m ∈ members, m.declaresProperty p.name = true) ∨
      ∃ o, (p.name, o) ∈ setterEntries members ∧ o.state = false := by
  rcases (name_mem_properties_iff members p.name).1 (List.mem_map_of_mem h) with
    ⟨o, ho, hstate⟩ | ⟨o, ho, hstate⟩
  · obtain ⟨m, hm, hmark⟩ := exists_mark?_of_mem_countedOptions ho
    exact Or.inl ⟨m, hm, declaresProperty_of_mark? hmark hstate⟩
  · exact (declaresProperty_of_mem_staticEntries ho).imp_right fun hentry => ⟨o, hentry, hstate⟩

/-- **The entries of static setters are all that is undeclared.** -/
theorem forall_declaresProperty_iff (members : List ClassMember) :
    (∀ p ∈ (ofMembers members).properties, ∃ m ∈ members, m.declaresProperty p.name = true) ↔
      ∀ entry ∈ setterEntries members, entry.2.state = false →
        ∃ m ∈ members, m.declaresProperty entry.1 = true := by
  constructor
  · intro h entry hentry hstate
    -- an entry of a setter is one of the static entries, so it makes a property
    have hmem : entry.1 ∈ (ofMembers members).properties.map (·.name) := by
      obtain ⟨m, hm, e, he, hstatic⟩ := mem_staticEntries_iff.1 hentry
      refine (name_mem_properties_iff members entry.1).2 (Or.inr ⟨entry.2, ?_, hstate⟩)
      exact mem_staticEntries_iff.2 ⟨m, List.mem_of_mem_filter hm, e, he, hstatic⟩
    obtain ⟨p, hp, hname⟩ := List.mem_map.1 hmem
    exact hname ▸ h p hp
  · intro h p hp
    rcases declaresProperty_or_of_mem_properties hp with hdeclared | ⟨o, hentry, hstate⟩
    · exact hdeclared
    · exact h (p.name, o) hentry hstate

end Draft

/-- **What the properties that a module shows are.**  The properties that a module shows of a class
are those of a class that it declares.  Each of them is well-formed.  Its name is that of a
decorated member of the instances, or a key of an object that a static field, getter or method
states, or else a key of an object that a static setter returns, the options of which are not those
of internal state; so all of them are declared just when all such keys are declared elsewhere. -/
theorem properties_wellFormed {M : Script.Module} {s : ClassSurface}
    (h : s ∈ (ModuleSurface.of M).classes) :
    ∃ c ∈ M.statements.filterMap fun s => (declaredClass? s).map (·.2), c.name = some s.name ∧
      (∀ p ∈ s.properties, p.WellFormed c.members) ∧
      (∀ p ∈ s.properties, (∃ m ∈ c.members, m.declaresProperty p.name = true) ∨
        ∃ o, (p.name, o) ∈ setterEntries c.members ∧ o.state = false) ∧
      ((∀ p ∈ s.properties, ∃ m ∈ c.members, m.declaresProperty p.name = true) ↔
        ∀ entry ∈ setterEntries c.members, entry.2.state = false →
          ∃ m ∈ c.members, m.declaresProperty entry.1 = true) := by
  obtain ⟨c, hc, hname, hproperties⟩ := ModuleSurface.exists_properties_of_mem h
  refine ⟨c, hc, hname, ?_⟩
  rw [hproperties]
  exact ⟨fun p hp => Draft.wellFormed_of_mem_properties hp,
    fun p hp => Draft.declaresProperty_or_of_mem_properties hp,
    Draft.forall_declaresProperty_iff c.members⟩

/-- A class with a decorated field, and with a static getter. -/
def gaugeDecl : ClassDecl where
  name := some "Gauge"
  decorators := []
  members := [
    .method ⟨[], true, .everyone, .name "properties", false⟩
      ⟨.get, none, none, [.object [.property (.name "open") (.object [])]]⟩,
    .field ⟨[.call (.identifier "property") []], false, .everyone, .name "value", false⟩
      ⟨some "number", none, true⟩]
  lead := ""
  body := ""

/-- Its surface. -/
def gaugeSurface : ClassSurface :=
  ⟨"Gauge", .none, none, [⟨"value", "number", true, none, false, some "value"⟩,
    ⟨"open", "unknown", false, none, false, some "open"⟩], [], [], [], ⟨none, [], []⟩⟩

theorem properties_wellFormed_gauge :
    gaugeSurface ∈ (ModuleSurface.of ⟨[.classDecl gaugeDecl]⟩).classes ∧
      (∀ p ∈ gaugeSurface.properties, p.WellFormed gaugeDecl.members) ∧
      ∀ p ∈ gaugeSurface.properties, ∃ m ∈ gaugeDecl.members, m.declaresProperty p.name = true := by
  have hmem : gaugeSurface ∈ (ModuleSurface.of ⟨[.classDecl gaugeDecl]⟩).classes := by
    decide +kernel
  obtain ⟨c, hc, -, hwellFormed, -, hiff⟩ := properties_wellFormed hmem
  obtain rfl : c = gaugeDecl := List.mem_singleton.1 hc
  exact ⟨hmem, hwellFormed, hiff.2 (List.forall_mem_nil _)⟩

/-- A class with a static setter, which returns an object to nobody. -/
def setterSource : String :=
  "@customElement(\"x-tab\")\nexport class XTab extends LitElement \x7b\n" ++
    "  static set properties(value) \x7b return \x7b open: \x7b\x7d \x7d; \x7d\n\x7d\n"

/-- **What a static setter returns is taken for a declaration.** -/
theorem undeclared_property_of_setter :
    ∃ es e, elementsOf ⟨"src/tab.ts"⟩ setterSource = .ok es ∧ e ∈ es ∧
      ∃ c ∈ classesOf ⟨"src/tab.ts"⟩ setterSource, c.name = some e.className ∧
        ∃ p ∈ e.properties, ∀ m ∈ c.members, m.declaresProperty p.name = false := by
  refine ⟨[⟨"x-tab", "XTab", .named, ⟨"src/tab.ts"⟩,
    [⟨"open", "unknown", false, none, false, some "open"⟩], [], [], none⟩], _, ?_,
    List.mem_cons_self, by decide +kernel⟩
  rw [← Except.toOption_eq_some]
  decide +kernel

end ElementBindings
