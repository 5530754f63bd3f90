import ElementBindings.Proofs.Element.Classes

/-!
# Proofs/Element/Properties — which members make the properties of a class

A member that decorators mark makes a property, unless it is half of an accessor pair whose name is
marked already (`marks_ofMembers`); a static entry makes one for a name that has none
(`name_mem_foldl_addStatic_iff`).  So a name comes twice just when a marked field repeats it
(`properties_nodup_iff`), and every name can be bound as it is (`isBindable_of_mem_properties`).
-/

namespace ElementBindings

open Script

/-! ## Marks -/

/-- The name of a public member, with the options that its decorators give it. -/
def publicMark? (h : MemberHead) : Option (String × PropertyOptions) :=
  (publicName? h).bind fun name => (memberOptions? h.decorators).map (name, ·)

namespace Script.ClassMember

/-- The name and the options of a member that decorators mark; static members are none. -/
def mark? : ClassMember → Option (String × PropertyOptions)
  | field h _ | accessor h _ => if h.isStatic then none else publicMark? h
  | method h b => if h.isStatic || b.kind == .plain then none else publicMark? h
  | other => none

/-- What a member of the instances of a class has; static members are none. -/
def instanceHead? : ClassMember → Option MemberHead
  | field h _ | accessor h _ | method h _ => if h.isStatic then none else some h
  | other => none

/-- Whether a member is a method, and so half of an accessor pair if it is marked. -/
def isMethod : ClassMember → Bool
  | method .. => true
  | _ => false

end Script.ClassMember

/-- The marks that count, with those of one member more: a method counts where its name is new. -/
def addMark (marks : List (String × PropertyOptions)) (m : ClassMember) :
    List (String × PropertyOptions) :=
  match m.mark? with
  | none => marks
  | some mark => if m.isMethod && marks.any (·.1 == mark.1) then marks else marks ++ [mark]

theorem publicName?_eq_some_iff {h : MemberHead} {name : String} :
    publicName? h = some name ↔ h.computed = false ∧ h.key.isPrivate = false ∧ h.access = .everyone ∧
      h.key.name? = some name ∧ Text.isBindable name = true := by
  rw [publicName?]
  split
  · next hhidden =>
    simp only [Bool.or_eq_true, bne_iff_ne, ne_eq] at hhidden
    grind
  · next hpublic =>
    simp only [Bool.or_eq_true, bne_iff_ne, ne_eq, not_or, not_not, Bool.not_eq_true] at hpublic
    simp [hpublic, Option.filter_eq_some_iff]

theorem publicMark?_eq_some_iff {h : MemberHead} {name : String} {o : PropertyOptions} :
    publicMark? h = some (name, o) ↔
      publicName? h = some name ∧ memberOptions? h.decorators = some o := by
  simp [publicMark?, Option.bind_eq_some_iff, Option.map_eq_some_iff]

theorem exists_publicMark?_of_mark? {m : ClassMember} {mark : String × PropertyOptions}
    (h : m.mark? = some mark) : ∃ head, m.instanceHead? = some head ∧ publicMark? head = some mark := by
  cases m with
  | other => exact absurd h (Option.some_ne_none _).symm
  | field head _ | accessor head _ =>
    rw [ClassMember.mark?] at h
    split at h
    · exact absurd h (Option.some_ne_none _).symm
    · next hstatic => exact ⟨head, if_neg hstatic, h⟩
  | method head b =>
    rw [ClassMember.mark?] at h
    split at h
    · exact absurd h (Option.some_ne_none _).symm
    · next hskip =>
      exact ⟨head, if_neg fun hstatic => hskip (Bool.or_eq_true_iff.2 (Or.inl hstatic)), h⟩

/-- **A marked member has a name that can be bound.** -/
theorem isBindable_of_mark? {m : ClassMember} {mark : String × PropertyOptions}
    (h : m.mark? = some mark) : Text.isBindable mark.1 = true := by
  obtain ⟨head, -, hmark⟩ := exists_publicMark?_of_mark? h
  exact (publicName?_eq_some_iff.1 (publicMark?_eq_some_iff.1 hmark).1).2.2.2.2

/-! ## Entries -/

namespace Script.ClassMember

/-- What a marked member declares, with its options: a field is declared with its type and its
initial value, half of an accessor pair with its name only. -/
def added? : ClassMember → Option (Declared × PropertyOptions)
  | field h b | accessor h b =>
    if h.isStatic then none else (publicMark? h).map fun (name, o) => (Draft.declared name b, o)
  | method h b =>
    if h.isStatic || b.kind == .plain then none
    else (publicMark? h).map fun (name, o) => (.bare name, o)
  | other => none

/-- An entry is the mark of its member, and what the member declares. -/
theorem map_added? (m : ClassMember) : (m.added?.map fun (d, o) => (d.name, o)) = m.mark? := by
  cases m with
  | other => rfl
  | field h b | accessor h b | method h b =>
    rw [added?, mark?]
    split
    · rfl
    · rw [Option.map_map]
      exact Option.map_id'

end Script.ClassMember

/-- The entries that count, with those of one member more: a method counts where its name is new. -/
def addEntry (entries : List (Declared × PropertyOptions)) (m : ClassMember) :
    List (Declared × PropertyOptions) :=
  match m.added? with
  | none => entries
  | some entry =>
    if m.isMethod && entries.any (·.1.name == entry.1.name) then entries else entries ++ [entry]

namespace Draft

theorem decorated_addStaticField (d : Draft) (h : MemberHead) (b : FieldBody) :
    (d.addStaticField h b).decorated = d.decorated := by
  rw [addStaticField]
  split <;> rfl

theorem decorated_addStaticMethod (d : Draft) (h : MemberHead) (b : MethodBody) :
    (d.addStaticMethod h b).decorated = d.decorated := by
  rw [addStaticMethod]
  split <;> rfl

/-- Half of an accessor pair counts where its name is new. -/
theorem decorated_addHalf (d : Draft) (h : MemberHead) (b : MethodBody) (hkind : b.kind ≠ .plain) :
    (d.addHalf h b).decorated = match publicMark? h with
      | none => d.decorated
      | some mark =>
        if d.decorated.any (·.1.name == mark.1) then d.decorated
        else d.decorated ++ [(.bare mark.1, mark.2)] := by
  rw [addHalf, if_neg hkind, publicMark?]
  cases publicName? h with
  | none => rfl
  | some name =>
    -- the type that the half may state is no entry
    cases memberOptions? h.decorators with
    | none =>
      cases halfType? b <;> simp only [Option.bind_some, Option.map_none] <;> split
      any_goals split
      all_goals rfl
    | some o =>
      cases halfType? b <;>
        simp only [Option.bind_some, Option.map_some, apply_ite decorated]

/-- **One member more is one entry more**, if it counts. -/
theorem decorated_add (d : Draft) (m : ClassMember) :
    (d.add m).decorated = addEntry d.decorated m := by
  cases m with
  | other => rfl
  | field h b =>
    rw [add, addEntry, ClassMember.added?]
    split
    · exact decorated_addStaticField d h b
    · rw [addField, publicMark?]
      cases publicName? h with
      | none => rfl
      | some name => cases memberOptions? h.decorators <;> simp [ClassMember.isMethod]
  | accessor h b =>
    rw [add, addEntry, ClassMember.added?]
    split
    · rfl
    · rw [addAccessorField, publicMark?]
      cases publicName? h with
      | none => rfl
      | some name => cases memberOptions? h.decorators <;> simp [ClassMember.isMethod]
  | method h b =>
    rw [add, addEntry, ClassMember.added?]
    cases h.isStatic with
    | true => exact decorated_addStaticMethod d h b
    | false =>
      by_cases hkind : b.kind = .plain
      · simp [addHalf, hkind]
      · simp only [Bool.false_eq_true, if_false, Bool.false_or, beq_iff_eq, hkind,
          decorated_addHalf d h b hkind]
        cases publicMark? h with
        | none => rfl
        | some mark => simp only [ClassMember.isMethod, Bool.true_and, Option.map_some, Declared.bare]

/-- **An entry is that of a member.** -/
theorem exists_added?_of_mem_decorated {members : List ClassMember}
    {entry : Declared × PropertyOptions} (h : entry ∈ (ofMembers members).decorated) :
    ∃ m ∈ members, m.added? = some entry := by
  have hstep (d : Draft) (m : ClassMember) :
      ∀ entry ∈ (d.add m).decorated, entry ∈ d.decorated ∨ m.added? = some entry := by
    intro entry hentry
    rw [decorated_add, addEntry] at hentry
    split at hentry
    · exact Or.inl hentry
    · next own hown =>
      split at hentry
      · exact Or.inl hentry
      · rw [List.mem_append, List.mem_singleton] at hentry
        exact hentry.imp_right fun heq => hown.trans (congrArg some heq.symm)
  exact (List.mem_or_exists_of_mem_foldl decorated hstep h).resolve_left List.not_mem_nil

/-- The names of the members with options, and the options. -/
def marks (d : Draft) : List (String × PropertyOptions) := d.decorated.map fun (m, o) => (m.name, o)

theorem any_name_eq_any_marks (d : Draft) (name : String) :
    d.decorated.any (·.1.name == name) = d.marks.any (·.1 == name) := by
  rw [marks, List.any_map]
  rfl

/-- **One member more is one mark more**, if it counts. -/
theorem marks_add (d : Draft) (m : ClassMember) : (d.add m).marks = addMark d.marks m := by
  rw [marks, decorated_add, addEntry, addMark, ← ClassMember.map_added?]
  cases m.added? with
  | none => rfl
  | some entry =>
    simp only [any_name_eq_any_marks, Option.map_some]
    split
    · rfl
    · exact List.map_append

/-- **The marks of a class** are those of its members that count. -/
theorem marks_ofMembers (members : List ClassMember) :
    (ofMembers members).marks = members.foldl addMark [] := by
  rw [ofMembers]
  induction members using List.reverseRecOn with
  | nil => rfl
  | append_singleton before m ih => rw [List.foldl_concat, List.foldl_concat, marks_add, ih]

end Draft

/-- A mark that counts is that of a member. -/
theorem exists_mark?_of_mem {members : List ClassMember} {mark : String × PropertyOptions}
    (h : mark ∈ members.foldl addMark []) : ∃ m ∈ members, m.mark? = some mark := by
  rw [← Draft.marks_ofMembers] at h
  obtain ⟨entry, hentry, rfl⟩ := List.mem_map.1 h
  obtain ⟨m, hm, hadded⟩ := Draft.exists_added?_of_mem_decorated hentry
  exact ⟨m, hm, by rw [← ClassMember.map_added?, hadded, Option.map_some]⟩

/-! ## The declarations of a name -/

/-- The options that some members declare for a name, each with whether a method declares them. -/
def declarationsOf (name : String) (members : List ClassMember) : List (Bool × PropertyOptions) :=
  members.filterMap fun m =>
    (m.mark?.filter (·.1 == name)).map fun mark => (m.isMethod, mark.2)

/-- **The declarations of a name that count**: the first one, and of the later ones those by
fields. -/
def countedOptions (name : String) (members : List ClassMember) : List PropertyOptions :=
  match declarationsOf name members with
  | [] => []
  | first :: later => first.2 :: (later.filter (!·.1)).map (·.2)

theorem declarationsOf_concat (name : String) (before : List ClassMember) (m : ClassMember) :
    declarationsOf name (before ++ [m]) = declarationsOf name before
      ++ ((m.mark?.filter (·.1 == name)).map fun mark => (m.isMethod, mark.2)).toList := by
  rw [declarationsOf, List.filterMap_append]
  rfl

/-- One member more counts as a mark of its name, and of no other. -/
theorem countedOptions_concat (name : String) (before : List ClassMember) (m : ClassMember) :
    countedOptions name (before ++ [m]) = match m.mark?.filter (·.1 == name) with
      | none => countedOptions name before
      | some mark =>
        if m.isMethod && !(countedOptions name before).isEmpty then countedOptions name before
        else countedOptions name before ++ [mark.2] := by
  rw [countedOptions, declarationsOf_concat, countedOptions]
  cases m.mark?.filter (·.1 == name) with
  | none => simp
  | some mark =>
    cases declarationsOf name before with
    | nil => simp
    | cons first later => cases m.isMethod <;> simp

/-- **The marks of a name are its declarations that count.** -/
theorem filter_foldl_addMark (name : String) (members : List ClassMember) :
    ((members.foldl addMark []).filter (·.1 == name)).map (·.2) = countedOptions name members := by
  induction members using List.reverseRecOn with
  | nil => rfl
  | append_singleton before m ih =>
    rw [List.foldl_concat, countedOptions_concat, ← ih, addMark]
    cases hm : m.mark? with
    | none => rfl
    | some mark =>
      by_cases hname : mark.1 = name
      · subst hname
        -- a mark of the name is known just when some declaration of the name counts
        have hany : (before.foldl addMark []).any (·.1 == mark.1)
            = !(((before.foldl addMark []).filter (·.1 == mark.1)).map (·.2)).isEmpty := by
          rw [List.isEmpty_map, Bool.eq_iff_iff]
          simp
        simp only [hany, Option.filter_some, beq_self_eq_true, if_true]
        split
        · rfl
        · simp
      · simp only [Option.filter_some, beq_iff_eq, hname, if_false]
        split
        · rfl
        · simp [hname]

/-! ## Static entries -/

namespace Script.ClassMember

/-- The objects of the static properties that a member states: the value of a field, or what a method
returns. -/
def staticObjects : ClassMember → List Expr
  | field h b =>
    if h.isStatic && h.key.name? == some "properties" then (b.initial.map (·.1)).toList else []
  | method h b => if h.isStatic && h.key.name? == some "properties" then b.returns else []
  | _ => []

end Script.ClassMember

/-- The entries of the static properties that some members state. -/
def staticEntries (members : List ClassMember) : List (String × PropertyOptions) :=
  (members.flatMap ClassMember.staticObjects).flatMap staticProperties

/-- Every static entry has a name that can be bound. -/
theorem isBindable_of_mem_staticEntries {members : List ClassMember}
    {entry : String × PropertyOptions} (h : entry ∈ staticEntries members) :
    Text.isBindable entry.1 = true := by
  obtain ⟨e, -, he⟩ := List.mem_flatMap.1 h
  obtain ⟨member, -, hmember⟩ := List.mem_filterMap.1 he
  cases member with
  | spread _ => exact absurd hmember (Option.some_ne_none _).symm
  | property key value =>
    obtain ⟨name, hname, rfl⟩ := Option.map_eq_some_iff.1 hmember
    exact (Option.filter_eq_some_iff.1 hname).2

namespace Draft

theorem staticOptions_addStaticField (d : Draft) {h : MemberHead} (b : FieldBody)
    (hstatic : h.isStatic = true) :
    (d.addStaticField h b).staticOptions
      = d.staticOptions ++ (ClassMember.field h b).staticObjects.flatMap staticProperties := by
  rw [addStaticField, ClassMember.staticObjects, hstatic, Bool.true_and]
  split
  · next e _ hname hinitial => simp [hname, hinitial]
  · next hname _ => simp [hname]
  · next hproperties _ =>
    rcases hinitial : b.initial with _ | ⟨e, text⟩
    · simp
    · have hname : h.key.name? ≠ some "properties" := fun hname => hproperties e text hname hinitial
      simp [hname]

theorem staticOptions_addStaticMethod (d : Draft) {h : MemberHead} (b : MethodBody)
    (hstatic : h.isStatic = true) :
    (d.addStaticMethod h b).staticOptions
      = d.staticOptions ++ (ClassMember.method h b).staticObjects.flatMap staticProperties := by
  rw [addStaticMethod, ClassMember.staticObjects, hstatic, Bool.true_and]
  by_cases hname : h.key.name? = some "properties" <;> simp [hname]

theorem staticOptions_addHalf (d : Draft) (h : MemberHead) (b : MethodBody) :
    (d.addHalf h b).staticOptions = d.staticOptions := by
  rw [addHalf]
  cases publicName? h with
  | none => split <;> rfl
  | some name =>
    cases halfType? b <;> cases memberOptions? h.decorators <;>
      simp only [apply_ite Draft.staticOptions, ite_self]

/-- **One member more is the entries of its objects more.** -/
theorem staticOptions_add (d : Draft) (m : ClassMember) :
    (d.add m).staticOptions = d.staticOptions ++ m.staticObjects.flatMap staticProperties := by
  have hsame {d' : Draft} (h : d'.staticOptions = d.staticOptions) :
      d'.staticOptions = d.staticOptions ++ [].flatMap staticProperties := by simp [h]
  cases m with
  | other => exact hsame rfl
  | field h b =>
    rw [add]
    split
    · next hstatic => exact staticOptions_addStaticField d b hstatic
    · next hstatic =>
      rw [ClassMember.staticObjects, Bool.eq_false_iff.2 hstatic, addField]
      refine hsame ?_
      split
      · rfl
      · split <;> rfl
  | accessor h b =>
    rw [add, addAccessorField]
    split
    · exact hsame rfl
    · split <;> exact hsame rfl
  | method h b =>
    rw [add]
    split
    · next hstatic => exact staticOptions_addStaticMethod d b hstatic
    · next hstatic =>
      rw [ClassMember.staticObjects, Bool.eq_false_iff.2 hstatic]
      exact hsame (staticOptions_addHalf d h b)

/-- **The static entries of a class** are those of its members, in order. -/
theorem staticOptions_ofMembers (members : List ClassMember) :
    (ofMembers members).staticOptions = staticEntries members := by
  rw [ofMembers]
  induction members using List.reverseRecOn with
  | nil => rfl
  | append_singleton before m ih =>
    rw [List.foldl_concat, staticOptions_add, ih, staticEntries, staticEntries, List.flatMap_append,
      List.flatMap_append, List.flatMap_singleton]

theorem name_undecorated? (d : Draft) (name : String) : (d.undecorated? name).name = name := by
  rw [undecorated?]
  split
  · next m hm =>
    have hname := List.find?_some hm
    exact beq_iff_eq.1 hname
  · rfl

/-- **A static entry makes a property for a name that has none.** -/
theorem map_name_addStatic (d : Draft) (ps : List Property) (entry : String × PropertyOptions) :
    (d.addStatic ps entry).map (·.name)
      = if entry.2.state = true ∨ entry.1 ∈ ps.map (·.name) then ps.map (·.name)
        else ps.map (·.name) ++ [entry.1] := by
  rw [addStatic]
  simp only [Bool.or_eq_true, List.any_eq_true, beq_iff_eq, List.mem_map]
  split
  · rfl
  · rw [List.map_append, List.map_singleton, Declared.property, name_undecorated?]

/-- **A name is there before the static entries, or one of them makes it a property.** -/
theorem name_mem_foldl_addStatic_iff (d : Draft) (ps : List Property)
    (entries : List (String × PropertyOptions)) (name : String) :
    name ∈ (entries.foldl d.addStatic ps).map (·.name) ↔
      name ∈ ps.map (·.name) ∨ ∃ o, (name, o) ∈ entries ∧ o.state = false := by
  induction entries generalizing ps with
  | nil => simp
  | cons entry entries ih =>
    obtain ⟨entryName, options⟩ := entry
    rw [List.foldl_cons, ih, map_name_addStatic]
    simp only [List.mem_cons, Prod.mk.injEq, or_and_right, exists_or, ← or_assoc]
    refine or_congr_left ?_
    split
    · next hskip =>
      refine (or_iff_left_of_imp ?_).symm
      rintro ⟨o, ⟨rfl, rfl⟩, hstate⟩
      exact hskip.resolve_left (by simp [hstate])
    · next hskip =>
      have hstate : options.state = false := Bool.eq_false_iff.2 (not_or.1 hskip).1
      rw [List.mem_append, List.mem_singleton]
      refine or_congr_right ⟨?_, ?_⟩
      · rintro rfl
        exact ⟨options, ⟨rfl, rfl⟩, hstate⟩
      · rintro ⟨o, ⟨rfl, -⟩, -⟩
        rfl

/-- **Static entries repeat no name.** -/
theorem nodup_foldl_addStatic_iff (d : Draft) (ps : List Property)
    (entries : List (String × PropertyOptions)) :
    ((entries.foldl d.addStatic ps).map (·.name)).Nodup ↔ (ps.map (·.name)).Nodup := by
  induction entries generalizing ps with
  | nil => rfl
  | cons entry entries ih =>
    rw [List.foldl_cons, ih, map_name_addStatic]
    split
    · rfl
    · next h =>
      rw [← List.concat_eq_append, List.nodup_concat]
      exact and_iff_right (not_or.1 h).2

end Draft

/-! ## The properties of a class -/

namespace Draft

theorem map_name_decoratedProperties (d : Draft) :
    d.decoratedProperties.map (·.name) = (d.marks.filter (!·.2.state)).map (·.1) := by
  rw [decoratedProperties, marks]
  induction d.decorated with
  | nil => rfl
  | cons mark decorated ih =>
    obtain ⟨m, o⟩ := mark
    simp only [List.filterMap_cons, List.map_cons, List.filter_cons]
    cases o.state with
    | true => exact ih
    | false => exact congrArg (m.name :: ·) ih

/-- **A name comes as often as decorators declare it**, internal state apart. -/
theorem count_decoratedProperties (members : List ClassMember) (name : String) :
    ((ofMembers members).decoratedProperties.map (·.name)).count name
      = ((countedOptions name members).filter (!·.state)).length := by
  rw [map_name_decoratedProperties, marks_ofMembers, ← filter_foldl_addMark, List.filter_map,
    List.length_map, List.filter_filter, List.count_eq_length_filter, List.filter_map,
    List.length_map, List.filter_filter]
  congr 2
  funext mark
  exact Bool.and_comm _ _

/-- **The names of the properties are distinct just when decorators declare each of them once.** -/
theorem nodup_properties_iff (members : List ClassMember) :
    ((ofMembers members).properties.map (·.name)).Nodup ↔
      ∀ name, ((countedOptions name members).filter (!·.state)).length ≤ 1 := by
  rw [properties, nodup_foldl_addStatic_iff, List.nodup_iff_count_le_one]
  exact forall_congr' fun name => by rw [count_decoratedProperties]

theorem isBindable_of_mem_marks {members : List ClassMember} {mark : String × PropertyOptions}
    (h : mark ∈ (ofMembers members).marks) : Text.isBindable mark.1 = true := by
  rw [marks_ofMembers] at h
  obtain ⟨m, -, hm⟩ := exists_mark?_of_mem h
  exact isBindable_of_mark? hm

/-- **Every property has a name that can be bound as it is.** -/
theorem isBindable_of_mem_properties {members : List ClassMember} {p : Property}
    (h : p ∈ (ofMembers members).properties) : Text.isBindable p.name = true := by
  have h : p.name ∈ (ofMembers members).properties.map (·.name) := List.mem_map_of_mem h
  rw [properties, name_mem_foldl_addStatic_iff, staticOptions_ofMembers] at h
  rcases h with h | ⟨o, hentry, -⟩
  · rw [map_name_decoratedProperties] at h
    obtain ⟨mark, hmark, hname⟩ := List.mem_map.1 h
    exact hname ▸ isBindable_of_mem_marks (List.mem_of_mem_filter hmark)
  · exact isBindable_of_mem_staticEntries hentry

end Draft

/-! ## The properties of an element -/

/-- **The properties of an element have distinct names just when its class is marked so.**  They are
those of one class of the source; whatever fields, accessors and static entries declare them, a name
comes twice just when two declarations of it count that are no internal state: a second half of an
accessor pair and a static entry do not count, and a second field does. -/
theorem properties_nodup_iff {path : Path} {source : String} {es : List Element}
    (h : elementsOf path source = .ok es) {e : Element} (he : e ∈ es) :
    ∃ c ∈ classesOf path source, c.name = some e.className ∧
      e.properties = (Draft.ofMembers c.members).properties ∧
      ((e.properties.map (·.name)).Nodup ↔
        ∀ name, ((countedOptions name c.members).filter (!·.state)).length ≤ 1) := by
  obtain ⟨c, hc, kind, s, hs, hshows⟩ := exists_shows_of_mem h he
  obtain ⟨name, hname, rfl⟩ := Option.map_eq_some_iff.1 hs
  have hproperties : e.properties = (Draft.ofMembers c.members).properties := hshows.properties
  refine ⟨c, hc, hname.trans (congrArg some hshows.className.symm), hproperties, ?_⟩
  rw [hproperties]
  exact Draft.nodup_properties_iff c.members

/-- A class that declares properties in more ways than one, and some of them twice. -/
def sliderSource : String :=
  "@customElement(\"x-slider\") class Slider \x7b " ++
    "static properties = \x7b a: \x7b\x7d, b: \x7b\x7d \x7d; " ++
    "@property() a; @property() get at() \x7b\x7d @property() set at(to) \x7b\x7d \x7d"

/-- Its element. -/
def sliderElement : Element :=
  ⟨"x-slider", "Slider", .none, ⟨"slider.ts"⟩, ["a", "at", "b"].map
    fun name => ⟨name, "unknown", false, none, false, some name⟩, [], [], none⟩

theorem elementsOf_sliderSource :
    elementsOf ⟨"slider.ts"⟩ sliderSource = .ok [sliderElement] := by
  rw [← Except.toOption_eq_some]
  decide +kernel

theorem properties_nodup_slider :
    elementsOf ⟨"slider.ts"⟩ sliderSource = .ok [sliderElement] ∧
      sliderElement ∈ [sliderElement] ∧
      ∃ c ∈ classesOf ⟨"slider.ts"⟩ sliderSource, c.name = some "Slider" ∧
        sliderElement.properties = (Draft.ofMembers c.members).properties ∧
        ∀ name, ((countedOptions name c.members).filter (!·.state)).length ≤ 1 := by
  refine ⟨elementsOf_sliderSource, List.mem_cons_self, ?_⟩
  obtain ⟨c, hc, hname, hproperties, hiff⟩ :=
    properties_nodup_iff elementsOf_sliderSource List.mem_cons_self
  exact ⟨c, hc, hname, hproperties, hiff.1 (by decide)⟩

/-- **A field that is declared twice is two properties of one name.** -/
theorem properties_not_nodup :
    ∃ es e, elementsOf ⟨"src/tab.ts"⟩
        ("export class XTab extends HTMLElement \x7b\n" ++
          "  @property() label = \"\";\n  @property() label = \"x\";\n" ++
          "\x7d\ncustomElements.define(\"x-tab\", XTab);\n") = .ok es ∧
      e ∈ es ∧ ¬ (e.properties.map (·.name)).Nodup := by
  refine ⟨[⟨"x-tab", "XTab", .named, ⟨"src/tab.ts"⟩,
    [⟨"label", "string", false, some "\"\"", false, some "label"⟩,
      ⟨"label", "string", false, some "\"x\"", false, some "label"⟩], [], [], none⟩], _, ?_,
    List.mem_cons_self, by decide⟩
  rw [← Except.toOption_eq_some]
  decide +kernel

end ElementBindings
