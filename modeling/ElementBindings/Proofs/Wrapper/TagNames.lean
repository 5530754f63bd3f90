import ElementBindings.Proofs.Text.Names
import ElementBindings.Proofs.Wrapper.Derivation

/-!
# Proofs/Wrapper/TagNames — a component name tells its tag

Behind the prefix a tag has a stem, and the component is named after it (`wrapperName_append`).  A
stem that is made of words can be read off that name, so two tags with such stems never lead to one
component (`names_and_stems_inverse`).
-/

namespace ElementBindings

namespace WrapRules

variable {r : WrapRules} {s name : String}

/-- A stem is what a tag has behind the prefix. -/
theorem stem?_append (r : WrapRules) (hs : s ≠ "") : r.stem? (r.lead ++ s) = some s := by
  have hdrop : Text.dropLead? r.lead.toList (r.lead ++ s).toList = some s.toList :=
    Text.dropLead?_eq_some.2 String.toList_append
  rw [stem?, hdrop]
  cases hcs : s.toList with
  | nil => exact absurd (String.toList_inj.1 (hcs.trans String.toList_empty.symm)) hs
  | cons c cs => exact congrArg some (by rw [← hcs, String.ofList_toList])

/-- **A component is named after the stem of its tag.** -/
theorem wrapperName_append (hs : s ≠ "") (h : r.wrapperName (r.lead ++ s) = .ok name) :
    name = Text.pascalCase s := by
  obtain ⟨stem, hstem, rfl, -⟩ := wrapperName_eq_ok_iff.1 h
  rw [stem?_append r hs] at hstem
  rw [Option.some.inj hstem]

end WrapRules

theorem Text.IsStem.ne_empty {s : String} (h : IsStem s) : s ≠ "" := by
  rintro rfl
  exact absurd (h.heads [] (by simp)) (by simp)

/-- **Component names and stems of words are each other's forms.**  A component name is got back
from its hyphenated form, and a stem that is made of words from its component name.  So two
different tags with such stems behind one prefix have no wrapper name in common. -/
theorem names_and_stems_inverse :
    (∀ name, Text.isComponentName name = true →
      Text.pascalCase (Text.kebabCase name) = name) ∧
    (∀ s, Text.IsStem s → Text.kebabCase (Text.pascalCase s) = s) ∧
    ∀ (r : WrapRules) (s s' : String), Text.IsStem s → Text.IsStem s' →
      r.lead ++ s ≠ r.lead ++ s' →
      ∀ name, r.wrapperName (r.lead ++ s) = .ok name →
        r.wrapperName (r.lead ++ s') ≠ .ok name := by
  refine ⟨fun _ => Text.pascalCase_kebabCase, fun _ => Text.kebabCase_pascalCase, ?_⟩
  intro r s s' hs hs' hne name h h'
  have hname := WrapRules.wrapperName_append hs.ne_empty h
  have hname' := WrapRules.wrapperName_append hs'.ne_empty h'
  have hsame : s = s' := by
    rw [← Text.kebabCase_pascalCase hs, ← hname, hname', Text.kebabCase_pascalCase hs']
  exact hne (congrArg (r.lead ++ ·) hsame)

/-- Rules that take `x-` off a tag and refuse other tags. -/
def xRules : WrapRules := ⟨"x-", .strict, .published fun _ => none⟩

theorem names_and_stems_inverse_iconButton :
    Text.isComponentName "Icon_Button2X" = true ∧
      Text.pascalCase (Text.kebabCase "Icon_Button2X") = "Icon_Button2X" ∧
      Text.IsStem "icon-b2_x" ∧ Text.kebabCase (Text.pascalCase "icon-b2_x") = "icon-b2_x" ∧
      Text.IsStem "icon-b2-x" ∧ xRules.wrapperName "x-icon-b2_x" = .ok "IconB2_x" ∧
      xRules.wrapperName "x-icon-b2-x" ≠ .ok "IconB2_x" := by
  have hname : Text.isComponentName "Icon_Button2X" = true := by decide
  have hs : Text.IsStem "icon-b2_x" := by decide
  have hs' : Text.IsStem "icon-b2-x" := by decide
  have hwrap : xRules.wrapperName "x-icon-b2_x" = .ok "IconB2_x" := by decide
  obtain ⟨hback, hforth, hapart⟩ := names_and_stems_inverse
  exact ⟨hname, hback _ hname, hs, hforth _ hs, hs', hwrap,
    hapart xRules _ _ hs hs' (by decide) _ hwrap⟩

end ElementBindings
