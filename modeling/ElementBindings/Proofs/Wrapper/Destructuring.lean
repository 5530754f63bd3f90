import ElementBindings.Proofs.Element.Discovery
import ElementBindings.Proofs.Script.Patterns
import ElementBindings.Proofs.Wrapper.PropNames

/-!
# Proofs/Wrapper/Destructuring — how a component takes its props apart

The first statement of a component body takes the props apart.  Each accepted name in it is scanned
as one token, unless there is an ornament in it, and then the statement is not scanned at all
(`scans_destructuring_iff`).  Its pattern binds the local names of the props (`patternMembers_iff`),
and an alias is no word of strict code (`alias_spec`).  So what keeps an accepted name from being
bound in a module, an ornament or a word of strict code, keeps the statement from being one of a
module; two props of one name do so too, and nothing else does (`bindable_binds_iff`).
-/

namespace ElementBindings

open Script

/-! ## Aliases -/

section Aliases

variable {key : String}

/-- An alias is the name, a word and perhaps a number. -/
theorem exists_toList_propAlias (key : String) (n : ℕ) :
    ∃ digits, (propAlias key n).toList = key.toList ++ ("Prop".toList ++ digits) ∧
      ∀ d ∈ digits, d.isDigit = true := by
  cases n with
  | zero => exact ⟨[], by simp [propAlias], List.forall_mem_nil _⟩
  | succ n =>
    refine ⟨Nat.toDigits 10 (n + 2), by simp [propAlias], fun d hd => ?_⟩
    exact Nat.isDigit_of_mem_toDigits (by decide) (by decide) hd

/-- What an alias adds to a name are letters and digits. -/
theorem isAlphanum_of_mem_alias {digits : List Char} (h : ∀ d ∈ digits, d.isDigit = true)
    {d : Char} (hd : d ∈ "Prop".toList ++ digits) : d.isAlphanum = true := by
  rcases List.mem_append.1 hd with hd | hd
  · have hall : "Prop".toList.all Char.isAlphanum = true := by decide
    exact List.all_eq_true.1 hall d hd
  · rw [Char.isAlphanum, h d hd, Bool.or_true]

/-- **An alias of an accepted name is accepted.**  It is no word of strict code, and has no ornament
but those of the name. -/
theorem alias_spec (h : Text.isBindable key = true) (n : ℕ) :
    Text.isBindable (propAlias key n) = true ∧ propAlias key n ∉ strictWords ∧
      (Text.Unadorned (propAlias key n).toList ↔ Text.Unadorned key.toList) := by
  obtain ⟨digits, htext, hdigits⟩ := exists_toList_propAlias key n
  have hadded : ∀ d ∈ "Prop".toList ++ digits, d.isAlphanum = true := fun _ =>
    isAlphanum_of_mem_alias hdigits
  -- no word that is kept has a capital letter
  have hsmall : ∀ word ∈ Text.reservedWords ++ strictWords, 'P' ∉ word.toList := by decide
  have hfree : propAlias key n ∉ Text.reservedWords ++ strictWords := fun hmem =>
    hsmall _ hmem (by simp [htext])
  rw [List.mem_append, not_or] at hfree
  obtain ⟨hform, -⟩ := Text.isBindable_iff.1 h
  obtain ⟨c, cs, hkey, -⟩ := Text.exists_cons_of_isIdentifier hform
  rw [hkey, Text.isIdentifier_cons_iff] at hform
  refine ⟨Text.isBindable_iff.2 ⟨?_, hfree.1⟩, hfree.2, ?_⟩
  · rw [htext, hkey, List.cons_append, Text.isIdentifier_cons_iff, List.forall_mem_append]
    refine ⟨hform.1, hform.2, fun d hd => ?_⟩
    have hword := Text.isWord_of_isAlphanum (hadded d hd) (Text.toNat_of_isAlphanum (hadded d hd))
    rw [Text.isIdentifierChar, hword, Bool.true_or]
  · rw [htext, Text.Unadorned, List.forall_mem_append]
    exact and_iff_left fun d hd => Text.isOrnament_ascii (Text.toNat_of_isAlphanum (hadded d hd))

end Aliases

/-! ## Tokens -/

/-- **What a component knows of a prop and its local name**: both are accepted, and one has an
ornament in it just when the other has. -/
structure IsBound (b : String × String) : Prop where
  key : Text.isBindable b.1 = true
  localName : Text.isBindable b.2 = true
  unadorned : Text.Unadorned b.2.toList ↔ Text.Unadorned b.1.toList

/-- The props in the first statement of a component body, as text. -/
def bindingsText (bs : List (String × String)) : List Char :=
  bs.flatMap fun b => (propBinding b).toList ++ [',', ' ']

/-- What follows the props in it. -/
def destructuringEnd : List Char := "children, ...rest \x7d = props;".toList

/-- The tokens of a prop. -/
def bindingTokens : String × String → List Kind
  | (key, localName) =>
    if key = localName then [.name localName, .punct ","]
    else [.name key, .punct ":", .name localName, .punct ","]

/-- The tokens that end the pattern… -/
def patternEnd : List Kind := [.name "children", .punct ",", .punct "...", .name "rest"]

/-- …and those behind it. -/
def statementEnd : List Kind := [.punct "\x7d", .punct "=", .name "props", .punct ";"]

variable {ks : List Kind} {rest : List Char} {b : String × String} {bs : List (String × String)}

theorem scans_destructuringEnd_iff :
    Scans destructuringEnd ks ↔ ks = patternEnd ++ statementEnd := by
  have htext : destructuringEnd = "children".toList ++ (',' :: ' ' :: '.' :: '.' :: '.' ::
      ("rest".toList ++ (' ' :: '\x7d' :: ' ' :: '=' :: ' ' :: ("props".toList ++ [';'])))) := rfl
  rw [htext]
  simp (disch := decide) only [scans_word_iff, scans_sign_iff, scans_space_iff,
    scans_dots_iff, scans_equals_iff, scans_nil_iff, exists_eq_right]
  rfl

/-- A prop is scanned as its tokens, if there is no ornament in it. -/
theorem scans_binding_iff (h : IsBound b) (hrest : rest.head?.all startsToken = true) :
    Scans ((propBinding b).toList ++ ',' :: ' ' :: rest) ks ↔ Text.Unadorned b.1.toList ∧
      ∃ tail, ks = bindingTokens b ++ tail ∧ Scans rest tail := by
  obtain ⟨key, l⟩ := b
  obtain ⟨hkey, -⟩ := Text.isBindable_iff.1 h.key
  obtain ⟨hlocal, -⟩ := Text.isBindable_iff.1 h.localName
  have hcomma : ∀ ks, Scans (',' :: ' ' :: rest) ks
      ↔ ∃ tail, ks = .punct "," :: tail ∧ Scans rest tail := fun ks => by
    rw [scans_sign_iff (by decide)]
    simp only [scans_space_iff hrest]
    rfl
  by_cases heq : key = l
  · subst heq
    rw [propBinding, if_pos rfl, bindingTokens, if_pos rfl, scans_name_iff hkey rfl]
    simp only [hcomma]
    constructor
    · rintro ⟨hplain, _, rfl, tail, rfl, hscan⟩
      exact ⟨hplain, tail, rfl, hscan⟩
    · rintro ⟨hplain, tail, rfl, hscan⟩
      exact ⟨hplain, _, rfl, tail, rfl, hscan⟩
  · have htext : (key ++ ": " ++ l).toList ++ ',' :: ' ' :: rest
        = key.toList ++ ':' :: ' ' :: (l.toList ++ ',' :: ' ' :: rest) := by simp
    have hlocalName : ∀ ks, Scans (l.toList ++ ',' :: ' ' :: rest) ks ↔ Text.Unadorned l.toList ∧
        ∃ tail, ks = .name l :: tail ∧ Scans (',' :: ' ' :: rest) tail := fun ks =>
      scans_name_iff hlocal rfl
    rw [propBinding, if_neg heq, bindingTokens, if_neg heq, htext, scans_name_iff hkey rfl]
    simp only [scans_sign_iff (show ':' ∈ loneSigns by decide),
      scans_space_iff (startsToken_of_isIdentifier hlocal _), hlocalName, hcomma]
    constructor
    · rintro ⟨hplain, _, rfl, _, rfl, -, _, rfl, tail, rfl, hscan⟩
      exact ⟨hplain, tail, rfl, hscan⟩
    · rintro ⟨hplain, tail, rfl, hscan⟩
      exact ⟨hplain, _, rfl, _, rfl, h.unadorned.2 hplain, _, rfl, tail, rfl, hscan⟩

theorem startsToken_propBinding (h : IsBound b) (rest : List Char) :
    ((propBinding b).toList ++ rest).head?.all startsToken = true := by
  obtain ⟨key, l⟩ := b
  rw [propBinding]
  split
  · exact startsToken_of_isIdentifier (Text.isBindable_iff.1 h.localName).1 rest
  · rw [String.toList_append, String.toList_append, List.append_assoc, List.append_assoc]
    exact startsToken_of_isIdentifier (Text.isBindable_iff.1 h.key).1 _

theorem startsToken_bindingsText (h : ∀ b ∈ bs, IsBound b) :
    (bindingsText bs ++ destructuringEnd).head?.all startsToken = true := by
  cases bs with
  | nil => decide
  | cons b bs =>
    rw [bindingsText, List.flatMap_cons, List.append_assoc, List.append_assoc]
    exact startsToken_propBinding (h b List.mem_cons_self) _

theorem scans_bindings_iff (h : ∀ b ∈ bs, IsBound b) :
    Scans (bindingsText bs ++ destructuringEnd) ks ↔ (∀ b ∈ bs, Text.Unadorned b.1.toList) ∧
      ∃ tail, ks = bs.flatMap bindingTokens ++ tail ∧ Scans destructuringEnd tail := by
  induction bs generalizing ks with
  | nil => simp [bindingsText]
  | cons b bs ih =>
    obtain ⟨hb, hbs⟩ := List.forall_mem_cons.1 h
    have htext : bindingsText (b :: bs) ++ destructuringEnd
        = (propBinding b).toList ++ ',' :: ' ' :: (bindingsText bs ++ destructuringEnd) := by
      simp [bindingsText]
    rw [htext, scans_binding_iff hb (startsToken_bindingsText hbs), List.forall_mem_cons,
      List.flatMap_cons]
    simp only [ih hbs]
    constructor
    · rintro ⟨hplain, _, rfl, hplains, tail, rfl, hscan⟩
      exact ⟨⟨hplain, hplains⟩, tail, by rw [List.append_assoc], hscan⟩
    · rintro ⟨⟨hplain, hplains⟩, tail, rfl, hscan⟩
      exact ⟨hplain, _, by rw [List.append_assoc], hplains, tail, rfl, hscan⟩

theorem toList_intercalate_bindings (bs : List (String × String)) :
    (", ".intercalate (bs.map propBinding ++ ["children", "...rest"])).toList
      = bindingsText bs ++ "children, ...rest".toList := by
  induction bs with
  | nil => rfl
  | cons b bs ih =>
    obtain ⟨next, more, hmore⟩ :=
      List.exists_cons_of_ne_nil (show bs.map propBinding ++ ["children", "...rest"] ≠ [] by simp)
    rw [hmore] at ih
    rw [List.map_cons, List.cons_append, hmore, String.intercalate_cons_cons, String.toList_append,
      String.toList_append, ih]
    simp [bindingsText]

theorem toList_destructuring (bs : List (String × String)) : (destructuring bs).toList
    = "const".toList ++ ' ' :: '\x7b' :: ' ' :: (bindingsText bs ++ destructuringEnd) := by
  have hend : "children, ...rest".toList ++ " \x7d = props;".toList = destructuringEnd := rfl
  rw [destructuring, String.toList_append, String.toList_append, toList_intercalate_bindings,
    List.append_assoc, List.append_assoc, hend]
  rfl

/-- **The statement is scanned as its tokens** if there is no ornament in a prop; otherwise it is
not scanned at all. -/
theorem scans_destructuring_iff (h : ∀ b ∈ bs, IsBound b) : Scans (destructuring bs).toList ks
    ↔ (∀ b ∈ bs, Text.Unadorned b.1.toList) ∧ ks = .name "const" :: .punct "\x7b" ::
      (bs.flatMap bindingTokens ++ patternEnd ++ statementEnd) := by
  have hname : endsName (' ' :: '\x7b' :: ' ' :: (bindingsText bs ++ destructuringEnd)) = true :=
    rfl
  have hbrace :
      ('\x7b' :: ' ' :: (bindingsText bs ++ destructuringEnd)).head?.all startsToken = true := rfl
  rw [toList_destructuring, scans_word_iff (by decide) (by decide) hname, List.append_assoc]
  simp only [scans_space_iff hbrace, scans_sign_iff (show '\x7b' ∈ loneSigns by decide),
    scans_space_iff (startsToken_bindingsText h), scans_bindings_iff h, scans_destructuringEnd_iff]
  constructor
  · rintro ⟨_, rfl, _, rfl, hplain, _, rfl, rfl⟩
    exact ⟨hplain, rfl⟩
  · rintro ⟨hplain, rfl⟩
    exact ⟨_, rfl, _, rfl, hplain, _, rfl, rfl⟩

/-! ## Patterns -/

/-- **The pattern binds the local names of the props**, what stands between the tags of the
component and the props that are left. -/
theorem patternMembers_iff {names : List String} :
    PatternMembers (bs.flatMap bindingTokens ++ patternEnd) names
      ↔ names = bs.map (·.2) ++ ["children", "rest"] := by
  induction bs generalizing names with
  | nil =>
    rw [List.flatMap_nil, List.nil_append, patternEnd, patternMembers_named_iff]
    simp only [patternMembers_rest_iff, exists_eq_right]
    rfl
  | cons b bs ih =>
    have hcons : ∀ ks, PatternMembers (bindingTokens b ++ ks) names
        ↔ ∃ tail, names = b.2 :: tail ∧ PatternMembers ks tail := fun ks => by
      rw [bindingTokens]
      split
      · exact patternMembers_named_iff
      · exact patternMembers_renamed_iff
    rw [List.flatMap_cons, List.append_assoc, hcons]
    simp only [ih, exists_eq_right]
    rfl

/-- **Taking props apart is a statement of a module** just when there is no ornament in a prop, no
local name is a word of strict code, and no name is bound twice. -/
theorem isDestructuring_iff (h : ∀ b ∈ bs, IsBound b) : IsDestructuring (destructuring bs).toList
    ↔ (∀ b ∈ bs, Text.Unadorned b.1.toList ∧ b.2 ∉ strictWords) ∧
      (bs.map (·.2) ++ ["children", "rest"]).Nodup := by
  have hends : ∀ name ∈ ["children", "rest"], isBindingIdentifier name = true := by decide
  constructor
  · rintro ⟨members, names, source, hscan, hmembers, -, hlegal, hnodup⟩
    obtain ⟨hplain, htokens⟩ := (scans_destructuring_iff h).1 hscan
    rw [List.cons_inj_right, List.cons_inj_right] at htokens
    obtain ⟨rfl, -⟩ := List.append_inj' htokens rfl
    obtain rfl := patternMembers_iff.1 hmembers
    rw [List.forall_mem_append, List.forall_mem_map] at hlegal
    refine ⟨fun b hb => ⟨hplain b hb, ?_⟩, hnodup⟩
    exact ((isBindingIdentifier_iff (h b hb).localName).1 (hlegal.1 b hb)).1
  · rintro ⟨hfree, hnodup⟩
    refine ⟨_, _, "props", (scans_destructuring_iff h).2 ⟨fun b hb => (hfree b hb).1, rfl⟩,
      patternMembers_iff.2 rfl, by decide, ?_, hnodup⟩
    rw [List.forall_mem_append, List.forall_mem_map]
    refine ⟨fun b hb => ?_, hends⟩
    obtain ⟨hplain, hword⟩ := hfree b hb
    exact (isBindingIdentifier_iff (h b hb).localName).2 ⟨hword, (h b hb).unadorned.2 hplain⟩

/-! ## The props of a component -/

namespace Wrapper

variable {w : Wrapper} {element : String}

theorem head?_bodyLines (w : Wrapper) (element : String) :
    (w.bodyLines element).head? = some (destructuring (w.propLocals element)) := rfl

/-- The names of props that are kept are taken from the start. -/
theorem mem_kept {key : String} (h : key ∈ w.keys) (hfree : key ∉ w.reserved element) :
    key ∈ w.keys.filter (!(w.reserved element).contains ·) := by
  simpa using ⟨h, hfree⟩

/-- **A prop with an accepted name is bound to an accepted name**, which is a word of strict code
only if the prop is called so and keeps its name. -/
theorem isBound_of_mem (h : ∀ key ∈ w.keys, Text.isBindable key = true)
    (hb : b ∈ w.propLocals element) :
    IsBound b ∧ (b.2 ∈ strictWords ↔ b.1 ∈ strictWords ∧ b.1 ∉ w.reserved element) := by
  have hkey : Text.isBindable b.1 = true := by
    refine h b.1 ?_
    rw [← map_fst_bindLocals (w.reserved element) _ w.keys]
    exact List.mem_map_of_mem hb
  rcases of_mem_bindLocals hb with ⟨hfree, hsame⟩ | ⟨hreserved, -⟩
  · rw [hsame]
    exact ⟨⟨hkey, by rwa [hsame], by rw [hsame]⟩, (and_iff_left hfree).symm⟩
  · obtain ⟨n, hn⟩ := exists_eq_propAlias (fun _ => mem_kept) hb hreserved
    obtain ⟨haccepted, hword, hplain⟩ := alias_spec hkey n
    rw [← hn] at haccepted hword hplain
    exact ⟨⟨hkey, haccepted, hplain⟩, iff_of_false hword fun hstrict => hstrict.2 hreserved⟩

theorem nodup_bound_iff (w : Wrapper) (element : String) :
    ((w.propLocals element).map (·.2) ++ ["children", "rest"]).Nodup
      ↔ (w.keys.filter (!(w.reserved element).contains ·)).Nodup := by
  have hends : ∀ name ∈ ["children", "rest"], name ∈ w.reserved element := by
    have hall : ∀ name ∈ ["children", "rest"], name ∈ componentBindings := by decide
    exact fun name hname => mem_reserved_iff.2 (Or.inl (hall name hname))
  have hapart : ∀ l ∈ (w.propLocals element).map (·.2), l ∉ ["children", "rest"] := by
    rw [List.forall_mem_map]
    intro b hb hend
    rcases of_mem_bindLocals hb with ⟨hfree, hsame⟩ | ⟨-, hfree, -⟩
    · exact hfree (hsame ▸ hends _ hend)
    · exact hfree (hends _ hend)
  rw [List.nodup_append', propLocals, nodup_bindLocals_iff fun _ => mem_kept]
  exact and_iff_left ⟨by decide, fun l hl => hapart l hl⟩

/-- Of the words of strict code a component body relies on none but those it is given. -/
theorem mem_reserved_iff_of_strict {key : String} (h : key ∈ strictWords) :
    key ∈ w.reserved element ↔ key = element ∨ key = w.name := by
  have hwords : ∀ word ∈ strictWords, word ∉ componentBindings ∧ word ∉ moduleBindings := by
    decide
  rw [mem_reserved_iff, or_iff_right (hwords key h).1, or_iff_right (hwords key h).2]

theorem isDestructuring_propLocals_iff (h : ∀ key ∈ w.keys, Text.isBindable key = true) :
    IsDestructuring (destructuring (w.propLocals element)).toList ↔
      (∀ key ∈ w.keys, Text.Unadorned key.toList ∧
        (key ∈ strictWords → key = element ∨ key = w.name)) ∧
      (w.keys.filter (!(w.reserved element).contains ·)).Nodup := by
  have hwords : ∀ key, (key ∈ strictWords → key = element ∨ key = w.name)
      ↔ ¬(key ∈ strictWords ∧ key ∉ w.reserved element) := fun key => by
    rw [not_and_not_right]
    exact forall_congr' fun hstrict => (mem_reserved_iff_of_strict hstrict).symm
  have hkeys : ∀ p : String → Prop,
      (∀ key ∈ w.keys, p key) ↔ ∀ b ∈ w.propLocals element, p b.1 := fun p => by
    have hmap : (w.propLocals element).map (·.1) = w.keys := map_fst_bindLocals _ _ _
    rw [← hmap, List.forall_mem_map]
  rw [isDestructuring_iff fun b hb => (isBound_of_mem h hb).1, nodup_bound_iff, hkeys]
  refine and_congr_left' (forall₂_congr fun b hb => and_congr_right' ?_)
  rw [hwords, (isBound_of_mem h hb).2]

end Wrapper

/-- **A module may bind an accepted name unless it is a word of strict code or has an ornament in
it**, and all of these are accepted.  Where the names of all props are accepted, a component takes
them apart in a statement of a module just when there is no ornament in them, none is a word of
strict code, but for the element class and the component itself, and no two that keep their names
agree. -/
theorem bindable_binds_iff {name : String} (hname : Text.isBindable name = true) (w : Wrapper)
    (element : String) (hkeys : ∀ key ∈ w.keys, Text.isBindable key = true) :
    (isBindingIdentifier name = true ↔ name ∉ strictWords ∧ Text.Unadorned name.toList) ∧
    (∀ word ∈ strictWords, Text.isBindable word = true) ∧
    (∀ c, Text.isOrnament c = true → Text.isBindable (name.push c) = true) ∧
    ∃ line, (w.bodyLines element).head? = some line ∧ (IsDestructuring line.toList ↔
      (∀ key ∈ w.keys, Text.Unadorned key.toList ∧
        (key ∈ strictWords → key = element ∨ key = w.name)) ∧
      (w.keys.filter (!(w.reserved element).contains ·)).Nodup) := by
  refine ⟨isBindingIdentifier_iff hname, by decide, fun c => Text.isBindable_push hname, ?_⟩
  exact ⟨_, w.head?_bodyLines element, Wrapper.isDestructuring_propLocals_iff hkeys⟩

theorem bindable_binds_iff_field :
    Text.isBindable "eventProp" = true ∧ isBindingIdentifier "eventProp" = true ∧
    (∀ key ∈ fieldWrapper.keys, Text.isBindable key = true) ∧
    ∃ line, (fieldWrapper.bodyLines "onInput").head? = some line ∧ IsDestructuring line.toList := by
  have hname : Text.isBindable "eventProp" = true := by decide
  have hkeys : ∀ key ∈ fieldWrapper.keys, Text.isBindable key = true := by decide
  have hascii : ∀ key ∈ fieldWrapper.keys, Text.allAscii key.toList = true ∧ key ∉ strictWords := by
    decide
  have hfree : ∀ key ∈ fieldWrapper.keys, Text.Unadorned key.toList ∧ key ∉ strictWords :=
    fun key hkey => (hascii key hkey).imp_left Text.unadorned_of_allAscii
  obtain ⟨hlegal, -, -, line, hline, hiff⟩ := bindable_binds_iff hname fieldWrapper "onInput" hkeys
  have hfield := hfree "eventProp" (by decide)
  refine ⟨hname, hlegal.2 hfield.symm, hkeys, line, hline, hiff.2 ⟨?_, by decide⟩⟩
  exact fun key hkey => ⟨(hfree key hkey).1, fun hstrict => absurd hstrict (hfree key hkey).2⟩

/-- A class with a property that is called like a word of strict code. -/
def parcelSource : String :=
  "@customElement(\"x-parcel\") export class Parcel \x7b @property() package \x7d"

/-- Its element. -/
def parcelElement : Element :=
  ⟨"x-parcel", "Parcel", .named, ⟨"parcel.ts"⟩,
    [⟨"package", "unknown", false, none, false, some "package"⟩], [], [], none⟩

/-- The wrapper of the element. -/
def parcelWrapper : Wrapper :=
  ⟨"Parcel", "x-parcel", "Parcel", .named, "Parcel", parcelElement.properties, [], [], none⟩

/-- **A property may have an accepted name that no module may bind**, and a name with a letter in a
circle is accepted too. -/
theorem bindable_not_binding :
    elementsOf ⟨"parcel.ts"⟩ parcelSource = .ok [parcelElement] ∧
    WrapRules.wrappers ⟨"x-", .strict, .published some⟩ ⟨[parcelElement]⟩ = .ok [parcelWrapper] ∧
    (∀ key ∈ parcelWrapper.keys,
      Text.isBindable key = true ∧ isBindingIdentifier key = false) ∧
    (∃ line, (parcelWrapper.bodyLines "Parcel").head? = some line ∧
      ¬ IsDestructuring line.toList) ∧
    Text.isBindable "size\u24c1" = true ∧ isBindingIdentifier "size\u24c1" = false := by
  have hsource : elementsOf ⟨"parcel.ts"⟩ parcelSource = .ok [parcelElement] := by
    rw [← Except.toOption_eq_some]
    decide +kernel
  have hkeys : ∀ key ∈ parcelWrapper.keys,
      Text.isBindable key = true ∧ isBindingIdentifier key = false := by decide
  have hcircle : Text.isOrnament '\u24c1' = true := Text.inRanges_iff.2 (by decide)
  have haccepted : Text.isBindable "size\u24c1" = true := by
    have hsize : Text.isBindable "size" = true := by decide
    have htext : "size\u24c1" = "size".push '\u24c1' := by rfl
    rw [htext]
    exact Text.isBindable_push hsize hcircle
  refine ⟨hsource, by decide +kernel, hkeys, ⟨_, parcelWrapper.head?_bodyLines "Parcel", ?_⟩,
    haccepted, ?_⟩
  · rw [Wrapper.isDestructuring_propLocals_iff fun key hkey => (hkeys key hkey).1]
    rintro ⟨hfree, -⟩
    rcases (hfree "package" (by decide)).2 (by decide) with h | h <;> exact absurd h (by decide)
  · rw [Bool.eq_false_iff]
    intro hbinds
    have hplain := ((isBindingIdentifier_iff haccepted).1 hbinds).2 '\u24c1' (by simp)
    exact absurd (hplain.symm.trans hcircle) Bool.false_ne_true

end ElementBindings
