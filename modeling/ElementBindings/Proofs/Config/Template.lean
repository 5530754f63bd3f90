import ElementBindings.Config.Template
import ElementBindings.Proofs.Text.Cutting
import ElementBindings.Proofs.Text.Names

/-!
# Proofs/Config/Template — what import templates give

A template that has been read says something, and so does the path it gives for a component
(`nonBlank_render`): each placeholder makes way for a form of the component's name, none of which is
blank, and everything else stays.
-/

namespace ElementBindings

namespace Text

/-! ## Text that says something -/

/-- Whether a text has more than white space in it. -/
def NonBlank (cs : List Char) : Prop := ∃ c ∈ cs, isBlank c = false

theorem nonBlank_cons {c : Char} (h : isBlank c = false) (cs : List Char) : NonBlank (c :: cs) :=
  ⟨c, List.mem_cons_self, h⟩

/-- **Trimming leaves nothing of white space, and something of everything else.** -/
theorem trim_ne_nil_iff {cs : List Char} : trim cs ≠ [] ↔ NonBlank cs := by
  simp [trim_eq_nil_iff, NonBlank]

/-- Replacing by text that says something leaves text that does. -/
theorem NonBlank.replaceFrom {old new cs : List Char} (hnew : NonBlank new) (h : NonBlank cs) :
    NonBlank (replaceFrom old new 0 cs) := by
  induction cs with
  | nil => exact h
  | cons c cs ih =>
    rw [Text.replaceFrom]
    split
    · obtain ⟨d, hd, hblank⟩ := hnew
      exact ⟨d, List.mem_append_left _ hd, hblank⟩
    · obtain ⟨d, hd, hblank⟩ := h
      rcases List.mem_cons.1 hd with rfl | hd
      · exact nonBlank_cons hblank _
      · obtain ⟨e, he, hblank⟩ := ih ⟨d, hd, hblank⟩
        exact ⟨e, List.mem_cons_of_mem c he, hblank⟩

/-! ## Names in their three forms -/

variable {name : String}

theorem nonBlank_of_isComponentName (h : isComponentName name = true) : NonBlank name.toList := by
  obtain ⟨c, cs, hname, hc⟩ := exists_cons_of_isComponentName h
  have hrange := toNat_of_isUpper hc
  rw [hname]
  exact nonBlank_cons (isBlank_of_ascii (by omega) (by omega)) cs

/-- The first letter of a name in lower case. -/
theorem lower_of_isUpper {c : Char} (h : c.isUpper = true) :
    lower c = [c.toLower] ∧ isBlank c.toLower = false := by
  have hrange := toNat_of_isUpper h
  have hlower := toNat_toLower_of_isUpper h
  exact ⟨lower_ascii (by omega), isBlank_of_ascii (by omega) (by omega)⟩

theorem nonBlank_lowerString (h : isComponentName name = true) :
    NonBlank (lowerString name).toList := by
  obtain ⟨c, cs, hname, hc⟩ := exists_cons_of_isComponentName h
  obtain ⟨hlower, hblank⟩ := lower_of_isUpper hc
  have hsigma : c ≠ 'Σ' := fun hs => absurd (hs ▸ hc) (by decide)
  rw [lowerString, String.toList_ofList, hname, lowerAfter, if_neg hsigma, hlower]
  exact nonBlank_cons hblank _

theorem nonBlank_kebabCase (h : isComponentName name = true) :
    NonBlank (kebabCase name).toList := by
  obtain ⟨c, cs, hname, hc⟩ := exists_cons_of_isComponentName h
  obtain ⟨hlower, hblank⟩ := lower_of_isUpper hc
  have hrange := toNat_of_isUpper hc
  have hupper : isUpper c = true := (isUpper_ascii (by omega)).trans hc
  rw [kebabCase, String.toList_ofList, hname, kebab, if_pos hupper, hlower]
  exact nonBlank_cons hblank _

end Text

namespace ImportTemplate

/-- A template that has been read says something. -/
theorem nonBlank_of_read {text : String} {t : ImportTemplate} (h : read text = .ok t) :
    Text.NonBlank t.text.toList := by
  rw [read] at h
  split at h
  · exact absurd h (by simp)
  · next hblank =>
    cases hcheck : check none text.toList with
    | error fault => exact absurd (hcheck ▸ h) (by simp [Except.map])
    | ok u =>
      rw [hcheck] at h
      obtain rfl := Except.ok.inj h
      exact Text.trim_ne_nil_iff.1 fun hnil => hblank (List.isEmpty_iff.2 hnil)

/-- Filling a placeholder leaves text that says something. -/
theorem nonBlank_fill {value : String} {cs : List Char} (hvalue : Text.NonBlank value.toList)
    (h : Text.NonBlank cs) (placeholder : String) :
    Text.NonBlank (fill placeholder value cs) := by
  rw [fill, Text.replace, if_neg (by simp)]
  exact hvalue.replaceFrom h

/-- **The import path of a component is not blank.** -/
theorem nonBlank_render {text name : String} {t : ImportTemplate} (ht : read text = .ok t)
    (hname : Text.isComponentName name = true) : Text.NonBlank (t.render name).toList := by
  rw [render, String.toList_ofList]
  refine nonBlank_fill (Text.nonBlank_kebabCase hname) ?_ _
  refine nonBlank_fill (Text.nonBlank_lowerString hname) ?_ _
  exact nonBlank_fill (Text.nonBlank_of_isComponentName hname) (nonBlank_of_read ht) _

end ImportTemplate

end ElementBindings
