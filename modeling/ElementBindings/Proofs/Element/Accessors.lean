import ElementBindings.Proofs.Element.Properties

/-!
# Proofs/Element/Accessors — the type of an accessor pair

Half of an accessor pair is a property by its name only (`decorated_ofMembers`), and takes the type
that the first half of its name states, whichever of them is decorated (`lookup_accessorTypes`).  So
the order of a pair matters to its type just when both halves state one and the types differ
(`accessorPair_type_iff`): with the setter in front, the property has the type of the setter.
-/

namespace ElementBindings

open Script

/-! ## Stated types -/

/-- The type that a member states for a name: what half of an accessor pair returns or takes. -/
def Script.ClassMember.statedType? (name : String) : ClassMember → Option String
  | .method h b =>
    if h.isStatic = false ∧ b.kind ≠ .plain ∧ publicName? h = some name then Draft.halfType? b
    else none
  | .field .. | .accessor .. | .other => none

namespace Draft

variable {d : Draft} {name : String}

theorem accessorTypes_addStaticField (d : Draft) (h : MemberHead) (b : FieldBody) :
    (d.addStaticField h b).accessorTypes = d.accessorTypes := by
  rw [addStaticField]
  split <;> rfl

theorem accessorTypes_addStaticMethod (d : Draft) (h : MemberHead) (b : MethodBody) :
    (d.addStaticMethod h b).accessorTypes = d.accessorTypes := by
  rw [addStaticMethod]
  split <;> rfl

/-- Half of an accessor pair adds the type that it states, under its name. -/
theorem accessorTypes_addHalf (d : Draft) {h : MemberHead} {b : MethodBody} {name : String}
    (hkind : b.kind ≠ .plain) (hname : publicName? h = some name) :
    (d.addHalf h b).accessorTypes = d.accessorTypes ++ ((halfType? b).map (name, ·)).toList := by
  rw [addHalf, if_neg hkind, hname]
  cases halfType? b <;> cases memberOptions? h.decorators <;>
    simp only [apply_ite accessorTypes, ite_self, Option.map_none, Option.map_some,
      Option.toList_none, Option.toList_some, List.append_nil]

/-- **One member more states its type behind those stated before.** -/
theorem lookup_accessorTypes_add (d : Draft) (m : ClassMember) (name : String) :
    (d.add m).accessorTypes.lookup name
      = (d.accessorTypes.lookup name).or (m.statedType? name) := by
  cases m with
  | other => rw [add, ClassMember.statedType?, Option.or_none]
  | field h b =>
    rw [add, ClassMember.statedType?, Option.or_none]
    split
    · rw [accessorTypes_addStaticField]
    · rw [addField]
      split
      · rfl
      · split <;> rfl
  | accessor h b =>
    rw [add, ClassMember.statedType?, Option.or_none]
    split
    · rfl
    · rw [addAccessorField]
      split <;> rfl
  | method h b =>
    rw [add, ClassMember.statedType?]
    cases h.isStatic with
    | true => simp [accessorTypes_addStaticMethod]
    | false =>
      by_cases hkind : b.kind = .plain
      · simp [addHalf, hkind]
      cases hname : publicName? h with
      | none => simp [addHalf, hname]
      | some own =>
        rw [if_neg Bool.false_ne_true, accessorTypes_addHalf d hkind hname, List.lookup_append]
        by_cases heq : own = name
        · subst heq
          cases halfType? b <;> simp [hkind]
        · have hother : (name == own) = false := beq_eq_false_iff_ne.2 (Ne.symm heq)
          cases halfType? b <;> simp [heq, hother]

/-- **Of a name, the first half that states a type gives it.** -/
theorem lookup_accessorTypes (members : List ClassMember) (name : String) :
    (ofMembers members).accessorTypes.lookup name
      = members.findSome? (ClassMember.statedType? name) := by
  rw [ofMembers]
  induction members using List.reverseRecOn with
  | nil => rfl
  | append_singleton before m ih =>
    rw [List.foldl_concat, lookup_accessorTypes_add, ih, List.findSome?_append,
      List.findSome?_singleton]

end Draft

/-! ## The first entry of a name -/

/-- The entry that a marked member makes under a name. -/
def Script.ClassMember.entryOf? (name : String) (m : ClassMember) :
    Option (Declared × PropertyOptions) := m.added?.filter (·.1.name == name)

/-- A member that is not marked under a name makes no entry of it. -/
theorem entryOf?_eq_none {name : String} {m : ClassMember} (h : ∀ mark ∈ m.mark?, mark.1 ≠ name) :
    m.entryOf? name = none := by
  rw [ClassMember.entryOf?, Option.filter_eq_none_iff]
  intro entry hentry
  have hmark : (entry.1.name, entry.2) ∈ m.mark? := by
    rw [← ClassMember.map_added?]
    exact Option.mem_map_of_mem _ hentry
  simpa using h _ hmark

/-- An entry goes behind those of its name, of which the first counts. -/
theorem find?_addEntry (entries : List (Declared × PropertyOptions)) (m : ClassMember)
    (name : String) :
    (addEntry entries m).find? (·.1.name == name)
      = (entries.find? (·.1.name == name)).or (m.entryOf? name) := by
  rw [addEntry, ClassMember.entryOf?]
  cases m.added? with
  | none => simp
  | some entry =>
    dsimp only
    split
    · next hknown =>
      -- an entry that does not count has the name of one that does
      obtain ⟨-, hany⟩ := Bool.and_eq_true_iff.1 hknown
      rw [Option.filter_some]
      split
      · next hname =>
        rw [← beq_iff_eq.1 hname, Option.or_of_isSome]
        exact List.find?_isSome.2 (List.any_eq_true.1 hany)
      · rw [Option.or_none]
    · rw [List.find?_append, List.find?_singleton, Option.filter_some]

/-- **The first entry of a name is that of the first member that is marked under it.** -/
theorem Draft.find?_decorated (members : List ClassMember) (name : String) :
    (ofMembers members).decorated.find? (·.1.name == name)
      = members.findSome? (ClassMember.entryOf? name) := by
  rw [ofMembers]
  induction members using List.reverseRecOn with
  | nil => rfl
  | append_singleton before m ih =>
    rw [List.foldl_concat, decorated_add, find?_addEntry, ih, List.findSome?_append,
      List.findSome?_singleton]

/-! ## The first property of a name -/

namespace Draft

variable {d : Draft} {m : Declared} {o : PropertyOptions}

/-- **The first entry of a name is its first property**, unless it is internal state. -/
theorem find?_decoratedProperties (h : d.decorated.find? (·.1.name == m.name) = some (m, o))
    (hstate : o.state = false) :
    d.decoratedProperties.find? (·.name == m.name) = some ((d.typed m).property o) := by
  obtain ⟨hname, before, after, hsplit, hbefore⟩ := List.find?_eq_some_iff_append.1 h
  rw [decoratedProperties, hsplit, List.filterMap_append, List.find?_append,
    List.find?_eq_none.2 ?_, Option.none_or]
  · simp [hstate, Declared.property, typed]
  · -- the entries before have other names
    intro q hq
    obtain ⟨⟨n, p⟩, hn, hq⟩ := List.mem_filterMap.1 hq
    obtain ⟨-, hq⟩ := Option.ite_none_left_eq_some.1 hq
    rw [← Option.some.inj hq]
    simpa [Declared.property, typed] using hbefore (n, p) hn

/-- Static entries go behind the properties that are there. -/
theorem find?_foldl_addStatic {ps : List Property} {p : Property → Bool} {q : Property}
    (h : ps.find? p = some q) (d : Draft) (entries : List (String × PropertyOptions)) :
    (entries.foldl d.addStatic ps).find? p = some q := by
  induction entries generalizing ps with
  | nil => exact h
  | cons entry entries ih =>
    refine ih ?_
    rw [addStatic]
    split
    · exact h
    · rw [List.find?_append, h, Option.some_or]

end Draft

/-! ## Accessor pairs -/

/-- **A public accessor pair** of which one half is decorated as a property. -/
structure AccessorPair where
  name : String
  getHead : MemberHead
  getBody : MethodBody
  setHead : MemberHead
  setBody : MethodBody
  options : PropertyOptions
  get_kind : getBody.kind = .get
  set_kind : setBody.kind = .set
  get_static : getHead.isStatic = false
  set_static : setHead.isStatic = false
  get_name : publicName? getHead = some name
  set_name : publicName? setHead = some name
  decorated :
    memberOptions? getHead.decorators = some options ∧ memberOptions? setHead.decorators = none ∨
      memberOptions? getHead.decorators = none ∧ memberOptions? setHead.decorators = some options
  listed : options.state = false

/-- The type of a property that states none itself: a stated type, else that of the constructor. -/
def PropertyOptions.typeOf (o : PropertyOptions) (stated : Option String) : String :=
  (stated.map Text.trimmed <|> o.constructorName.bind typeOfConstructor?).getD "unknown"

namespace AccessorPair

/-- The half that returns the value. -/
def getter (p : AccessorPair) : ClassMember := .method p.getHead p.getBody

/-- The half that takes the value. -/
def setter (p : AccessorPair) : ClassMember := .method p.setHead p.setBody

/-- **The type of a pair**: what the getter returns, else what the setter takes, else the
constructor of the options. -/
def type (p : AccessorPair) : String :=
  p.options.typeOf (p.getBody.result <|> p.setBody.parameter)

/-- Whether the halves of a pair do not state different types. -/
def Agrees (p : AccessorPair) : Prop :=
  ∀ r ∈ p.getBody.result, ∀ t ∈ p.setBody.parameter, Text.trimmed r = Text.trimmed t

variable (p : AccessorPair)

theorem statedType?_getter : p.getter.statedType? p.name = p.getBody.result := by
  simp [getter, ClassMember.statedType?, Draft.halfType?, p.get_kind, p.get_static, p.get_name]

theorem statedType?_setter : p.setter.statedType? p.name = p.setBody.parameter := by
  simp [setter, ClassMember.statedType?, Draft.halfType?, p.set_kind, p.set_static, p.set_name]

theorem entryOf?_getter :
    p.getter.entryOf? p.name = (memberOptions? p.getHead.decorators).map (.bare p.name, ·) := by
  cases h : memberOptions? p.getHead.decorators <;>
    simp [getter, ClassMember.entryOf?, ClassMember.added?, publicMark?, h, p.get_static,
      p.get_kind, p.get_name, Declared.bare]

theorem entryOf?_setter :
    p.setter.entryOf? p.name = (memberOptions? p.setHead.decorators).map (.bare p.name, ·) := by
  cases h : memberOptions? p.setHead.decorators <;>
    simp [setter, ClassMember.entryOf?, ClassMember.added?, publicMark?, h, p.set_static,
      p.set_kind, p.set_name, Declared.bare]

/-- **One half makes the entry of the pair**, in whichever order they stand. -/
theorem entryOf?_or :
    (p.getter.entryOf? p.name).or (p.setter.entryOf? p.name) = some (.bare p.name, p.options) ∧
      (p.setter.entryOf? p.name).or (p.getter.entryOf? p.name)
        = some (.bare p.name, p.options) := by
  rw [entryOf?_getter, entryOf?_setter]
  rcases p.decorated with ⟨hget, hset⟩ | ⟨hget, hset⟩ <;> rw [hget, hset] <;> exact ⟨rfl, rfl⟩

end AccessorPair

/-! ## The property of a pair -/

/-- Whether some members leave a name to others: none of them is marked under it. -/
def LeaveName (name : String) (members : List ClassMember) : Prop :=
  ∀ m ∈ members, ∀ mark ∈ m.mark?, mark.1 ≠ name

variable {name : String} {before mid after : List ClassMember} {a b : ClassMember}

theorem LeaveName.findSome?_entryOf? (h : LeaveName name before) :
    before.findSome? (ClassMember.entryOf? name) = none :=
  List.findSome?_eq_none_iff.2 fun m hm => entryOf?_eq_none (h m hm)

/-- **A name whose first entry is half of a pair has the type that is stated first.** -/
theorem exists_property_of_halves {o : PropertyOptions} (h : LeaveName name (before ++ mid))
    (hab : (a.entryOf? name).or (b.entryOf? name) = some (.bare name, o)) (hstate : o.state = false)
    {c : ClassDecl} (hc : c.members = before ++ [a] ++ mid ++ [b] ++ after) {kind : ExportKind}
    {s : ClassSurface} (hs : ClassSurface.of? kind c = some s) :
    ∃ q, s.properties.find? (·.name == name) = some q ∧
      q.type = o.typeOf (c.members.findSome? (ClassMember.statedType? name)) := by
  obtain ⟨_, -, rfl⟩ := Option.map_eq_some_iff.1 hs
  have hentry : (Draft.ofMembers c.members).decorated.find? (·.1.name == name)
      = some (.bare name, o) := by
    have hbefore : LeaveName name before := fun m hm => h m (List.mem_append_left _ hm)
    have hmid : LeaveName name mid := fun m hm => h m (List.mem_append_right _ hm)
    rw [Draft.find?_decorated, hc]
    simp only [List.findSome?_append, List.findSome?_singleton, hbefore.findSome?_entryOf?,
      hmid.findSome?_entryOf?, Option.none_or, Option.or_none, hab, Option.some_or]
  refine ⟨_, Draft.find?_foldl_addStatic (Draft.find?_decoratedProperties (m := .bare name) hentry
    hstate) _ _, ?_⟩
  rw [← Draft.lookup_accessorTypes]
  simp [Declared.property, Draft.typed, Declared.bare, PropertyOptions.typeOf]

namespace AccessorPair

variable (p : AccessorPair)

/-- Where no other half of the name states a type, those of the pair count in their order. -/
theorem findSome?_statedType? (h : ∀ m ∈ before ++ mid ++ after, m.statedType? name = none) :
    (before ++ [a] ++ mid ++ [b] ++ after).findSome? (ClassMember.statedType? name)
      = (a.statedType? name).or (b.statedType? name) := by
  simp only [List.forall_mem_append, ← List.findSome?_eq_none_iff] at h
  obtain ⟨⟨hbefore, hmid⟩, hafter⟩ := h
  simp only [List.findSome?_append, List.findSome?_singleton, hbefore, hmid, hafter,
    Option.none_or, Option.or_none]

/-- **With the setter in front the type is that of the pair** just when the halves agree. -/
theorem typeOf_setter_or_iff :
    p.options.typeOf (p.setBody.parameter.or p.getBody.result) = p.type ↔ p.Agrees := by
  rw [type, Agrees]
  cases p.getBody.result with
  | none => cases p.setBody.parameter <;> simp
  | some r =>
    cases p.setBody.parameter with
    | none => simp
    | some t => simp [PropertyOptions.typeOf, eq_comm]

end AccessorPair

/-- **When the order of an accessor pair does not matter.**  A public pair of which one half is
decorated makes a property in either order, unless its name is marked before; the type is the first
that a half of the name states, or else that of the constructor.  So with the getter in front it is
the type of the pair, where no third half states one; with the setter in front it is so just when the
two halves do not state different types. -/
theorem accessorPair_type_iff (p : AccessorPair) {before mid after : List ClassMember}
    (h : LeaveName p.name (before ++ mid)) {c c' : ClassDecl}
    (hc : c.members = before ++ [p.getter] ++ mid ++ [p.setter] ++ after)
    (hc' : c'.members = before ++ [p.setter] ++ mid ++ [p.getter] ++ after)
    {kind kind' : ExportKind} {s s' : ClassSurface} (hs : ClassSurface.of? kind c = some s)
    (hs' : ClassSurface.of? kind' c' = some s') :
    ∃ q q', s.properties.find? (·.name == p.name) = some q ∧
      s'.properties.find? (·.name == p.name) = some q' ∧
      q.type = p.options.typeOf (c.members.findSome? (ClassMember.statedType? p.name)) ∧
      q'.type = p.options.typeOf (c'.members.findSome? (ClassMember.statedType? p.name)) ∧
      ((∀ m ∈ before ++ mid ++ after, m.statedType? p.name = none) →
        q.type = p.type ∧ (q'.type = p.type ↔ p.Agrees)) := by
  obtain ⟨hgetter, hsetter⟩ := p.entryOf?_or
  obtain ⟨q, hq, htype⟩ := exists_property_of_halves h hgetter p.listed hc hs
  obtain ⟨q', hq', htype'⟩ := exists_property_of_halves h hsetter p.listed hc' hs'
  refine ⟨q, q', hq, hq', htype, htype', fun hothers => ?_⟩
  rw [htype, htype', hc, hc', AccessorPair.findSome?_statedType? hothers,
    AccessorPair.findSome?_statedType? hothers, p.statedType?_getter, p.statedType?_setter]
  exact ⟨by simp [AccessorPair.type], p.typeOf_setter_or_iff⟩

/-- A pair whose setter is decorated; both halves state a type. -/
def maxPair : AccessorPair where
  name := "max"
  getHead := ⟨[], false, .everyone, .name "max", false⟩
  getBody := ⟨.get, some "number", none, []⟩
  setHead := ⟨[.call (.identifier "property")
    [.value (.object [.property (.name "type") (.identifier "String")])]],
    false, .everyone, .name "max", false⟩
  setBody := ⟨.set, none, some "number", []⟩
  options := ⟨some "String", false, .lowerCase, false⟩
  get_kind := rfl
  set_kind := rfl
  get_static := rfl
  set_static := rfl
  get_name := by decide
  set_name := by decide
  decorated := Or.inr ⟨rfl, rfl⟩
  listed := rfl

/-- A decorated field of another name. -/
def labelMember : ClassMember :=
  .field ⟨[.identifier "property"], false, .everyone, .name "label", false⟩ ⟨none, none, false⟩

/-- The class of some members. -/
def meterDecl (members : List ClassMember) : ClassDecl := ⟨some "Meter", [], members, "", ""⟩

theorem accessorPair_type_max :
    LeaveName "max" ([] ++ [labelMember]) ∧
      (∀ m ∈ [] ++ [labelMember] ++ [], m.statedType? "max" = none) ∧ maxPair.Agrees ∧
      ∃ s s', ClassSurface.of? .none
          (meterDecl ([] ++ [maxPair.getter] ++ [labelMember] ++ [maxPair.setter] ++ [])) = some s ∧
        ClassSurface.of? .none
          (meterDecl ([] ++ [maxPair.setter] ++ [labelMember] ++ [maxPair.getter] ++ []))
            = some s' ∧
        ∃ q q', s.properties.find? (·.name == "max") = some q ∧
          s'.properties.find? (·.name == "max") = some q' ∧ q.type = "number" ∧
          q'.type = "number" := by
  have hname : LeaveName "max" ([] ++ [labelMember]) := by
    intro m hm mark hmark
    obtain rfl := List.mem_singleton.1 hm
    obtain rfl := Option.some.inj hmark
    decide
  have hothers : ∀ m ∈ [] ++ [labelMember] ++ [], m.statedType? "max" = none := by
    intro m hm
    obtain rfl := List.mem_singleton.1 hm
    rfl
  have hagrees : maxPair.Agrees := by
    intro r hr t ht
    rw [← Option.some.inj hr, ← Option.some.inj ht]
  obtain ⟨q, q', hq, hq', -, -, htype⟩ :=
    @accessorPair_type_iff maxPair [] [labelMember] [] hname (meterDecl _) (meterDecl _) rfl rfl
      .none .none _ _ rfl rfl
  obtain ⟨htype, hswapped⟩ := htype hothers
  exact ⟨hname, hothers, hagrees, _, _, rfl, rfl, q, q', hq, hq', htype,
    (hswapped.2 hagrees).trans (by decide +kernel)⟩

/-- The types of the properties of a class with some members in its source. -/
def typesIn (members : String) : Option (List (List String)) :=
  let source := "@customElement(\"x-tab\") class Tab \x7b " ++ members ++ " \x7d"
  (elementsOf ⟨"src/tab.ts"⟩ source).toOption.map (·.map fun e => e.properties.map (·.type))

/-- **The order of a pair matters where its halves state different types.** -/
theorem accessorPair_type_swapped :
    typesIn "@property() get size(): number \x7b\x7d set size(to: number | string) \x7b\x7d"
        = some [["number"]] ∧
      typesIn "set size(to: number | string) \x7b\x7d @property() get size(): number \x7b\x7d"
        = some [["number | string"]] := by
  decide +kernel

end ElementBindings
