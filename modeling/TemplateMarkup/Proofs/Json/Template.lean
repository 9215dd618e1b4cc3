import TemplateMarkup.CommandLine.Run
import TemplateMarkup.Proofs.IdTable
import TemplateMarkup.Proofs.Json.Recovery

namespace TemplateMarkup

namespace Json

@[simp] theorem ofString?_inj {first second : Option String} :
    ofString? first = ofString? second ↔ first = second := by
  cases first <;> cases second <;> simp [ofString?]

@[simp] theorem ofNat?_inj {first second : Option Nat} :
    ofNat? first = ofNat? second ↔ first = second := by
  cases first <;> cases second <;> simp only [ofNat?, reduceCtorEq, number.injEq, Int.ofNat_inj,
    Option.some.injEq]

end Json

theorem Location.toJson_injective : Function.Injective toJson := by
  rintro ⟨resource, line⟩ ⟨other, otherLine⟩ h
  simpa [toJson] using h

-- The label tells the kinds apart. Within a kind each part has a member of its own.
theorem TokenForm.eq_of_label_members {first second : TokenForm}
    (hlabel : first.label = second.label) (hmembers : first.members = second.members) :
    first = second := by
  cases first <;> cases second <;> simp_all [label, members]

theorem Token.toJson_injective : Function.Injective toJson := by
  rintro ⟨form, location⟩ ⟨other, otherLocation⟩ h
  simp only [toJson, Json.object.injEq, List.cons_append, List.nil_append, List.cons.injEq,
    Prod.mk.injEq, Json.string.injEq, true_and] at h
  obtain ⟨hlabel, hrest⟩ := h
  obtain ⟨hmembers, hlocation⟩ := List.append_inj' hrest rfl
  simp only [List.cons.injEq, Prod.mk.injEq, true_and, and_true] at hlocation
  rw [TokenForm.eq_of_label_members hlabel hmembers, Location.toJson_injective hlocation]

theorem IdTable.toJson_injective {α : Type} {value : α → Json} (hvalue : Function.Injective value) :
    Function.Injective (toJson value) := by
  intro table other h
  refine toList_injective (List.map_injective_iff.mpr ?_ (Json.object.inj h))
  intro entry twin hentry
  obtain ⟨hid, hcontent⟩ := Prod.mk.inj hentry
  exact Prod.ext hid (hvalue hcontent)

namespace Template

theorem sequenceToJson_injective : Function.Injective sequenceToJson := by
  intro tokens others h
  refine Array.toList_inj.mp ?_
  exact List.map_injective_iff.mpr Token.toJson_injective (Json.array.inj h)

-- A missing table of overrides is missing in the document as well, an empty one is not.
theorem toJson_injective : Function.Injective toJson := by
  rintro ⟨resource, tokens, ids, isExtension, overrides⟩
    ⟨otherResource, otherTokens, otherIds, otherExtension, otherOverrides⟩ h
  simp only [toJson, Json.object.injEq, List.cons_append, List.nil_append, List.cons.injEq,
    Prod.mk.injEq, Json.string.injEq, Json.bool.injEq, true_and] at h
  obtain ⟨rfl, htokens, hids, rfl, hoverrides⟩ := h
  obtain rfl := sequenceToJson_injective htokens
  obtain rfl := IdTable.toJson_injective Location.toJson_injective hids
  cases overrides with
  | none =>
      cases otherOverrides with
      | none => rfl
      | some table => cases hoverrides
  | some table =>
      cases otherOverrides with
      | none => cases hoverrides
      | some other =>
          simp only [List.cons.injEq, Prod.mk.injEq, true_and, and_true] at hoverrides
          rw [IdTable.toJson_injective sequenceToJson_injective hoverrides]

end Template

-- What is printed as JSON shows the whole template, whether or not colors are used.
theorem CommandLine.shown_json_inj {colored otherColored : Bool} {first second : Template} :
    shown colored .json first = shown otherColored .json second ↔ first = second := by
  constructor
  · intro h
    have htext : first.toJson.prettyText = second.toJson.prettyText :=
      String.append_left_inj _ |>.mp h
    exact Template.toJson_injective (Json.prettyText_injective htext)
  · rintro rfl
    rfl

end TemplateMarkup
