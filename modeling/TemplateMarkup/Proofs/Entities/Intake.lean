import TemplateMarkup.Entities
import TemplateMarkup.Proofs.Dtd.Reading
import TemplateMarkup.Proofs.Markup.Replacement

namespace TemplateMarkup

namespace Dtd.Declaration

-- Whether a general entity gets its value from a declaration.
def defines (name : String) : Declaration → Bool
  | .general other _ => other == name
  | _ => false

def isReference : Declaration → Bool
  | .reference _ => true
  | _ => false

end Dtd.Declaration

namespace Entities

open Reference (Replaced Mentions)

variable {entities : Entities} {declaration : Dtd.Declaration}
  {declarations before after : List Dtd.Declaration} {name value : String}

theorem get?_declareGeneral (entities : Entities) (name value other : String) :
    (entities.declareGeneral name value).get? other =
      if name = other then some ((entities.get? name).getD (entities.settle value))
      else entities.get? other := by
  unfold declareGeneral get?
  rw [Std.ExtTreeMap.contains_eq_isSome_getElem?]
  cases hname : entities.general[name]? with
  | some found =>
      by_cases hother : name = other
      · rw [← hother, if_pos rfl]
        simp [hname]
      · simp [hother]
  | none => simp [Std.ExtTreeMap.getElem?_insert]

-- Takes in a declaration that does not bring in others.
def declare (entities : Entities) : Dtd.Declaration → Entities
  | .general name value => entities.declareGeneral name value
  | .parameter name entity => entities.declareParameter name entity
  | .reference _ => entities

theorem parameters_declareGeneral (entities : Entities) (name value : String) :
    (entities.declareGeneral name value).parameters = entities.parameters := by
  unfold declareGeneral
  split
  · rfl
  · rfl

theorem asked_declare (entities : Entities) (declaration : Dtd.Declaration) :
    (entities.declare declaration).asked = entities.asked := by
  cases declaration with
  | general name value =>
      rw [declare, declareGeneral]
      split
      · rfl
      · rfl
  | parameter name entity =>
      rw [declare, declareParameter]
      split
      · rfl
      · rfl
  | reference name => rfl

theorem get?_declare_of_not_defines (h : declaration.defines name = false) :
    (entities.declare declaration).get? name = entities.get? name := by
  cases declaration with
  | general other value =>
      have hother : other ≠ name := by simpa [Dtd.Declaration.defines] using h
      rw [declare, get?_declareGeneral, if_neg hother]
  | parameter other entity =>
      rw [declare, declareParameter]
      split <;> rfl
  | reference other => rfl

theorem get?_declare_of_some (h : entities.get? name = some value) (declaration) :
    (entities.declare declaration).get? name = some value := by
  by_cases hdefines : declaration.defines name = true
  · cases declaration with
    | general other written =>
        have hother : other = name := by simpa [Dtd.Declaration.defines] using hdefines
        rw [declare, get?_declareGeneral, hother, if_pos rfl, h, Option.getD_some]
    | parameter other entity => cases hdefines
    | reference other => cases hdefines
  · rw [get?_declare_of_not_defines (by simpa using hdefines)]
    exact h

-- A first declaration gives the value as it is settled then.
theorem get?_declare_first (h : entities.get? name = none) (value : String) :
    (entities.declare (.general name value)).get? name = some (entities.settle value) := by
  rw [declare, get?_declareGeneral, if_pos rfl, h, Option.getD_none]

theorem get?_foldl_declare_of_not_defines
    (h : ∀ declaration ∈ declarations, declaration.defines name = false) :
    (declarations.foldl declare entities).get? name = entities.get? name := by
  induction declarations generalizing entities with
  | nil => rfl
  | cons declaration more ih =>
      have hfirst := h declaration List.mem_cons_self
      have hrest := fun other ho => h other (List.mem_cons_of_mem declaration ho)
      rw [List.foldl_cons, ih hrest, get?_declare_of_not_defines hfirst]

theorem get?_foldl_declare_of_some (h : entities.get? name = some value) :
    (declarations.foldl declare entities).get? name = some value := by
  induction declarations generalizing entities with
  | nil => exact h
  | cons declaration more ih => exact ih (get?_declare_of_some h declaration)

theorem exists_get?_foldl_declare
    (h : declarations.any (·.defines name) = true) :
    ∃ value, (declarations.foldl declare entities).get? name = some value := by
  obtain ⟨declaration, hmem, hdefines⟩ := List.any_eq_true.mp h
  obtain ⟨front, back, rfl⟩ := List.append_of_mem hmem
  have hhere : ∃ value, ((front.foldl declare entities).declare declaration).get? name =
      some value := by
    cases declaration with
    | general other written =>
        have hother : other = name := by simpa [Dtd.Declaration.defines] using hdefines
        rw [declare, get?_declareGeneral, if_pos hother]
        exact ⟨_, rfl⟩
    | parameter other entity => cases hdefines
    | reference other => cases hdefines
  obtain ⟨value, hvalue⟩ := hhere
  rw [List.foldl_append, List.foldl_cons]
  exact ⟨value, get?_foldl_declare_of_some hvalue⟩

theorem get?_empty (name : String) : empty.get? name = none := by
  simp [empty, get?]

-- The first declaration of a name counts, with what is known at its place.
theorem get?_foldl_declare
    (hfirst : ∀ declaration ∈ before, declaration.defines name = false) :
    ((before ++ .general name value :: after).foldl declare empty).get? name =
      some ((before.foldl declare empty).settle value) := by
  rw [List.foldl_append, List.foldl_cons]
  apply get?_foldl_declare_of_some
  apply get?_declare_first
  rw [get?_foldl_declare_of_not_defines hfirst, get?_empty]

-- What a value can refer to at the place behind `before`.
def knownBehind (before : List Dtd.Declaration) (entities : Entities) (name : String) :
    Option String :=
  if before.any (·.defines name) then entities.get? name else none

-- Later declarations change nothing of what is known at a place.
theorem knownBehind_foldl_declare (before after : List Dtd.Declaration) :
    ((before ++ after).foldl declare empty).knownBehind before =
      (before.foldl declare empty).get? := by
  funext name
  unfold knownBehind
  split
  · rename_i hany
    obtain ⟨value, hvalue⟩ := exists_get?_foldl_declare hany
    rw [List.foldl_append, hvalue]
    exact get?_foldl_declare_of_some hvalue
  · rename_i hnone
    rw [Bool.not_eq_true, List.any_eq_false] at hnone
    rw [get?_foldl_declare_of_not_defines (by simpa using hnone), get?_empty]

-- The value that an entity gets where `entity?` is known. One that refers to something else stays
-- as it is written.
def Settles (entity? : String → Option String) (value text : String) : Prop :=
  Replaced entity? value.toList text.toList ∨
    (∀ result, ¬Replaced entity? value.toList result) ∧ text = value

theorem settles_settle (entities : Entities) (value : String) :
    Settles entities.get? value (entities.settle value) := by
  unfold settle
  cases hexpand : Reference.expand entities.get? value with
  | ok expanded => exact .inl (Reference.expand_eq_ok_iff.mp hexpand)
  | error fault =>
      refine .inr ⟨fun result h => ?_, rfl⟩
      have hresult : Replaced entities.get? value.toList (String.ofList result).toList := by
        rw [String.toList_ofList]
        exact h
      rw [Reference.expand_eq_ok_iff.mpr hresult] at hexpand
      cases hexpand

theorem declareAll_eq_foldl {fetch : String → Except Fault (Option String)}
    {below : Entities → String → Intake}
    (h : ∀ declaration ∈ declarations, declaration.isReference = false) :
    declareAll fetch below declarations entities = ⟨none, declarations.foldl declare entities⟩ := by
  induction declarations generalizing entities with
  | nil => rfl
  | cons declaration more ih =>
      have hrest := fun other ho => h other (List.mem_cons_of_mem declaration ho)
      cases declaration with
      | general name value => exact ih hrest
      | parameter name entity => exact ih hrest
      | reference name => cases h _ List.mem_cons_self

theorem isReference_declared (definition : Dtd.Definition) :
    ∀ declaration ∈ definition.declared, declaration.isReference = false := by
  intro declaration h
  obtain ⟨item, -, hitem⟩ := List.mem_flatMap.mp h
  cases item with
  | internal entity =>
      rw [List.mem_singleton.mp hitem]
      rfl
  | parameter entity =>
      rw [List.mem_singleton.mp hitem]
      rfl
  | gap space => cases hitem
  | external entity => cases hitem
  | other content => cases hitem
  | comment content => cases hitem
  | instruction content => cases hitem

-- What a written definition leads to, item by item.
theorem takeIn_written_eq (fetch : String → Except Fault (Option String))
    {definition : Dtd.Definition}
    (h : ∀ item ∈ definition.outside, item.format? ≠ some "PUBLIC") (entities : Entities) :
    entities.takeIn fetch (String.ofList definition.written) =
      ⟨none, definition.declared.foldl declare entities⟩ := by
  rw [takeIn_eq, takeInWithin_succ, Dtd.declarations_written h]
  exact declareAll_eq_foldl (isReference_declared definition)

-- Taking in a definition succeeds and defines exactly the general entities that have a value
-- outside of all conditional sections: by the first declaration of each name, with references
-- to the entities before it replaced.
theorem takeIn_written (fetch : String → Except Fault (Option String))
    {definition : Dtd.Definition}
    (h : ∀ item ∈ definition.outside, item.format? ≠ some "PUBLIC") :
    let intake := empty.takeIn fetch (String.ofList definition.written)
    intake.fault = none ∧
      (∀ before name value after, definition.declared = before ++ .general name value :: after →
        (∀ declaration ∈ before, declaration.defines name = false) →
        ∃ text, intake.entities.get? name = some text ∧
          Settles (intake.entities.knownBehind before) value text) ∧
      ∀ name, (∀ declaration ∈ definition.declared, declaration.defines name = false) →
        intake.entities.get? name = none := by
  intro intake
  have hintake : intake = ⟨none, definition.declared.foldl declare empty⟩ :=
    takeIn_written_eq fetch h empty
  rw [hintake]
  refine ⟨rfl, ?_, ?_⟩
  · intro before name value after hdeclared hfirst
    have hknown := knownBehind_foldl_declare before (.general name value :: after)
    refine ⟨(before.foldl declare empty).settle value, ?_, ?_⟩
    · simp only [hdeclared]
      exact get?_foldl_declare hfirst
    · simp only [hdeclared, hknown]
      exact settles_settle _ value
  · intro name hname
    exact (get?_foldl_declare_of_not_defines hname).trans (get?_empty name)

-- Entities of one name in a literal, in a conditional section inside another, in a comment, and
-- twice where they count, with references to an entity before them and to one behind them.
def shownAndHidden : Dtd.Definition :=
  let blank := Dtd.Gap.space
  let shown : Dtd.Name := ⟨⟨"shown", by decide, List.all_eq_true.mp rfl⟩, by decide, by decide⟩
  let logo : Dtd.Name := ⟨⟨"logo", by decide, List.all_eq_true.mp rfl⟩, by decide, by decide⟩
  let word : Dtd.Word := ⟨"CDATA", by decide, List.all_eq_true.mp rfl⟩
  let ignored : Dtd.Word := ⟨"IGNORE", by decide, List.all_eq_true.mp rfl⟩
  let keyword : Dtd.SectionHead := ⟨some blank, ignored, none⟩
  let hidden : Dtd.Item := .internal ⟨blank, shown, blank, .double "]]>" (by decide), none⟩
  .item (.other ⟨.attributeList, blank, [.word word, .gap blank,
      .literal (.double "<!ENTITY shown 'no'>" (by decide))], rfl⟩) <|
  .conditional keyword (.conditional keyword (.item hidden .nil) (.item hidden .nil)) <|
  .item (.comment ⟨"<!ENTITY shown 'no'>".toList, by decide⟩) <|
  .item (.external ⟨blank, logo, blank, .ofSystem blank (.single "l.gif" (by decide)),
      some ⟨blank, blank, word⟩, none⟩) <|
  .item (.gap blank) <|
  .item (.internal ⟨blank, shown, blank, .single "&#62;" (by decide), some blank⟩) <|
  .item (.internal ⟨blank, logo, blank, .double "&shown;" (by decide), none⟩) <|
  .item (.internal ⟨blank, shown, blank, .double "&later;" (by decide), none⟩) .nil

theorem takeIn_written_shownAndHidden :
    let intake := empty.takeIn (fun _ => .ok none) (String.ofList shownAndHidden.written)
    (∀ item ∈ shownAndHidden.outside, item.format? ≠ some "PUBLIC") ∧
    shownAndHidden.declared = [.general "shown" "&#62;", .general "logo" "&shown;",
      .general "shown" "&later;"] ∧
    (intake.fault = none ∧
      (∀ before name value after,
        shownAndHidden.declared = before ++ .general name value :: after →
        (∀ declaration ∈ before, declaration.defines name = false) →
        ∃ text, intake.entities.get? name = some text ∧
          Settles (intake.entities.knownBehind before) value text) ∧
      ∀ name, (∀ declaration ∈ shownAndHidden.declared, declaration.defines name = false) →
        intake.entities.get? name = none) := by
  have h : ∀ item ∈ shownAndHidden.outside, item.format? ≠ some "PUBLIC" := by
    decide
  exact ⟨h, rfl, takeIn_written _ h⟩

-- The format of an entity has the name of a keyword.
def publicFormat : Dtd.Definition :=
  let blank := Dtd.Gap.space
  .item (.external ⟨blank, ⟨⟨"logo", by decide, List.all_eq_true.mp rfl⟩, by decide, by decide⟩,
      blank, .ofSystem blank (.double "logo.gif" (by decide)),
      some ⟨blank, blank, .publicId⟩, none⟩) <|
  .item (.internal ⟨blank, ⟨⟨"shown", by decide, List.all_eq_true.mp rfl⟩, by decide, by decide⟩,
      blank, .double "yes" (by decide), none⟩) .nil

-- The end of such a declaration is taken for a public identifier, so that the next declaration
-- is a part of it.
theorem not_takeIn_written_publicFormat :
    String.ofList publicFormat.written =
      "<!ENTITY logo SYSTEM \"logo.gif\" NDATA PUBLIC><!ENTITY shown \"yes\">" ∧
    ¬ ∀ (definition : Dtd.Definition) before name value after,
      definition.declared = before ++ .general name value :: after →
      (∀ declaration ∈ before, declaration.defines name = false) →
      ∃ text, (empty.takeIn (fun _ => .ok none) (String.ofList definition.written)).entities.get?
        name = some text := by
  refine ⟨by decide, fun hall => ?_⟩
  obtain ⟨text, htext⟩ := hall publicFormat [] "shown" "yes" [] rfl nofun
  have hnone : (empty.takeIn (fun _ => .ok none)
      (String.ofList publicFormat.written)).entities.get? "shown" = none := by
    decide +kernel
  rw [hnone] at htext
  cases htext

end Entities

end TemplateMarkup
