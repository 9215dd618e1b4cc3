import TemplateMarkup.Proofs.Entities.Intake

namespace TemplateMarkup

-- Declarations of general entities with values, one behind the other.
def Dtd.Definition.ofInternal (entities : List Dtd.InternalDeclaration) : Dtd.Definition :=
  entities.foldr (fun entity rest => .item (.internal entity) rest) .nil

def Dtd.InternalDeclaration.declaration (entity : Dtd.InternalDeclaration) : Dtd.Declaration :=
  .general entity.name.text entity.value.text

namespace Entities

open Reference (Replaced Mentions)

-- What is declared in front of an entity.
def inFront (declared : List Dtd.InternalDeclaration) (name : String) :
    List Dtd.InternalDeclaration :=
  declared.takeWhile (·.name.text != name)

-- An entity that is declared behind all those that its value refers to.
def Resolved (declared : List Dtd.InternalDeclaration) (entity : Dtd.InternalDeclaration) : Prop :=
  ∀ name, Mentions entity.value.text.toList name →
    ∃ other ∈ inFront declared entity.name.text, other.name.text = name

def ofDeclared (declared : List Dtd.InternalDeclaration) : Entities :=
  (declared.map (·.declaration)).foldl declare empty

section Permutation

variable {declared before after : List Dtd.InternalDeclaration} {entity : Dtd.InternalDeclaration}
  {name : String}

theorem outside_ofInternal (declared : List Dtd.InternalDeclaration) :
    (Dtd.Definition.ofInternal declared).outside = declared.map .internal := by
  induction declared with
  | nil => rfl
  | cons entity more ih => exact congrArg (.internal entity :: ·) ih

theorem takeIn_ofInternal (fetch : String → Except Fault (Option String))
    (declared : List Dtd.InternalDeclaration) :
    empty.takeIn fetch (String.ofList (Dtd.Definition.ofInternal declared).written) =
      ⟨none, ofDeclared declared⟩ := by
  have hformat : ∀ item ∈ (Dtd.Definition.ofInternal declared).outside,
      item.format? ≠ some "PUBLIC" := by
    intro item h
    rw [outside_ofInternal] at h
    obtain ⟨entity, -, rfl⟩ := List.mem_map.mp h
    exact nofun
  have hdeclared : (Dtd.Definition.ofInternal declared).declared =
      declared.map (·.declaration) := by
    rw [Dtd.Definition.declared, outside_ofInternal, List.flatMap_map]
    exact List.map_eq_flatMap.symm
  rw [takeIn_written_eq fetch hformat, hdeclared]
  rfl

theorem get?_ofDeclared_eq_none (h : ∀ entity ∈ declared, entity.name.text ≠ name) :
    (ofDeclared declared).get? name = none := by
  rw [ofDeclared, get?_foldl_declare_of_not_defines, get?_empty]
  intro declaration hmem
  obtain ⟨entity, hentity, rfl⟩ := List.mem_map.mp hmem
  simpa [Dtd.InternalDeclaration.declaration, Dtd.Declaration.defines] using h entity hentity

-- Each entity gets the value that it has at its place.
theorem get?_ofDeclared (h : ∀ other ∈ before, other.name.text ≠ entity.name.text) :
    (ofDeclared (before ++ entity :: after)).get? entity.name.text =
      some ((ofDeclared before).settle entity.value.text) := by
  rw [ofDeclared, List.map_append, List.map_cons]
  apply get?_foldl_declare
  intro declaration hmem
  obtain ⟨other, hother, rfl⟩ := List.mem_map.mp hmem
  simpa [Dtd.InternalDeclaration.declaration, Dtd.Declaration.defines] using h other hother

-- An entity that is known somewhere keeps its value to the end.
theorem get?_ofDeclared_append (h : ∃ entity ∈ before, entity.name.text = name) :
    (ofDeclared (before ++ after)).get? name = (ofDeclared before).get? name := by
  have hany : (before.map (·.declaration)).any (·.defines name) = true := by
    obtain ⟨entity, hmem, rfl⟩ := h
    rw [List.any_map]
    exact List.any_eq_true.mpr ⟨entity, hmem, by
      simp [Dtd.InternalDeclaration.declaration, Dtd.Declaration.defines]⟩
  obtain ⟨value, hvalue⟩ := @exists_get?_foldl_declare empty _ name hany
  rw [ofDeclared, ofDeclared, List.map_append, List.foldl_append, hvalue]
  exact get?_foldl_declare_of_some hvalue

theorem settle_of_replaced {entities : Entities} {value text : String}
    (h : Replaced entities.get? value.toList text.toList) : entities.settle value = text := by
  rw [settle, Reference.expand_eq_ok_iff.mpr h]

theorem settle_of_not_replaced {entities : Entities} {value : String}
    (h : ∀ result, ¬Replaced entities.get? value.toList result) :
    entities.settle value = value := by
  rcases settles_settle entities value with hreplaced | ⟨-, hsame⟩
  · exact absurd hreplaced (h _)
  · exact hsame

-- Tables that agree on what a value refers to settle it alike.
theorem settle_congr {entities others : Entities} {value : String}
    (h : ∀ name, Mentions value.toList name → entities.get? name = others.get? name) :
    entities.settle value = others.settle value := by
  rcases settles_settle others value with hreplaced | ⟨hnone, hsame⟩
  · exact settle_of_replaced (hreplaced.congr fun name hname => (h name hname).symm)
  · rw [hsame]
    exact settle_of_not_replaced fun result hresult => hnone result (hresult.congr h)

-- A value that refers to something unknown is not looked into.
theorem settle_eq_self {entities : Entities} {value : String} (hname : Mentions value.toList name)
    (hnone : entities.get? name = none) : entities.settle value = value := by
  apply settle_of_not_replaced
  intro result hresult
  obtain ⟨found, hfound⟩ := hresult.known hname
  rw [hnone] at hfound
  cases hfound

theorem inFront_append (h : ∀ other ∈ before, other.name.text ≠ entity.name.text)
    (after : List Dtd.InternalDeclaration) :
    inFront (before ++ entity :: after) entity.name.text = before := by
  have hbefore : ∀ other ∈ before, (other.name.text != entity.name.text) = true := by
    intro other hother
    simpa using h other hother
  rw [inFront, List.takeWhile_append_of_pos hbefore, List.takeWhile_cons]
  simp

-- Names that are declared once tell what stands in front of an entity.
theorem distinct_of_append (hdistinct : (declared.map (·.name.text)).Nodup)
    (hdeclared : declared = before ++ entity :: after) :
    ∀ other ∈ before, other.name.text ≠ entity.name.text := by
  intro other hother hname
  rw [hdeclared, List.map_append, List.map_cons, List.nodup_append] at hdistinct
  exact hdistinct.2.2 _ (List.mem_map_of_mem hother) _ List.mem_cons_self hname

theorem exists_append (hdistinct : (declared.map (·.name.text)).Nodup) (h : entity ∈ declared) :
    ∃ after, declared = inFront declared entity.name.text ++ entity :: after := by
  obtain ⟨before, after, hdeclared⟩ := List.append_of_mem h
  refine ⟨after, ?_⟩
  have hfront := inFront_append (distinct_of_append hdistinct hdeclared) after
  rw [hdeclared, hfront]

-- The value at its place of an entity that is declared once.
theorem get?_ofDeclared_of_mem (hdistinct : (declared.map (·.name.text)).Nodup)
    (h : entity ∈ declared) :
    (ofDeclared declared).get? entity.name.text =
      some ((ofDeclared (inFront declared entity.name.text)).settle entity.value.text) := by
  obtain ⟨after, hdeclared⟩ := exists_append hdistinct h
  have hvalue := @get?_ofDeclared _ after _ (distinct_of_append hdistinct hdeclared)
  rw [← hdeclared] at hvalue
  exact hvalue

theorem get?_of_not_resolved (hdistinct : (declared.map (·.name.text)).Nodup)
    (h : entity ∈ declared) (hresolved : ¬Resolved declared entity) :
    (ofDeclared declared).get? entity.name.text = some entity.value.text := by
  rw [Resolved] at hresolved
  push Not at hresolved
  obtain ⟨name, hname, hfront⟩ := hresolved
  rw [get?_ofDeclared_of_mem hdistinct h, settle_eq_self hname (get?_ofDeclared_eq_none hfront)]

-- What is in front of an entity is known there as it is in the end.
theorem get?_ofDeclared_inFront (hdistinct : (declared.map (·.name.text)).Nodup)
    (h : entity ∈ declared)
    (hname : ∃ other ∈ inFront declared entity.name.text, other.name.text = name) :
    (ofDeclared (inFront declared entity.name.text)).get? name =
      (ofDeclared declared).get? name := by
  obtain ⟨after, hdeclared⟩ := exists_append hdistinct h
  have hsame := @get?_ofDeclared_append _ (entity :: after) _ hname
  rw [← hdeclared] at hsame
  exact hsame.symm

end Permutation

section Orders

variable {declared others : List Dtd.InternalDeclaration}

-- Two orders give an entity one value, if it is resolved in both or in neither, or is resolved in
-- one of them to what is written.
structure AgreesOn (declared others : List Dtd.InternalDeclaration)
    (entity : Dtd.InternalDeclaration) : Prop where
  first : Resolved declared entity → ¬Resolved others entity →
    (ofDeclared declared).get? entity.name.text = some entity.value.text
  second : Resolved others entity → ¬Resolved declared entity →
    (ofDeclared others).get? entity.name.text = some entity.value.text

-- The values of an entity are the same if those in front of it are.
theorem AgreesOn.get?_eq {entity : Dtd.InternalDeclaration}
    (h : AgreesOn declared others entity) (hdistinct : (declared.map (·.name.text)).Nodup)
    (hothers : (others.map (·.name.text)).Nodup) (hmem : entity ∈ declared)
    (hmemOthers : entity ∈ others)
    (hfront : ∀ known ∈ inFront declared entity.name.text,
      (ofDeclared declared).get? known.name.text = (ofDeclared others).get? known.name.text) :
    (ofDeclared declared).get? entity.name.text = (ofDeclared others).get? entity.name.text := by
  by_cases hfirst : Resolved declared entity
  · by_cases hsecond : Resolved others entity
    · rw [get?_ofDeclared_of_mem hdistinct hmem, get?_ofDeclared_of_mem hothers hmemOthers]
      refine congrArg some (settle_congr fun name hname => ?_)
      rw [get?_ofDeclared_inFront hdistinct hmem (hfirst name hname),
        get?_ofDeclared_inFront hothers hmemOthers (hsecond name hname)]
      obtain ⟨known, hknown, rfl⟩ := hfirst name hname
      exact hfront known hknown
    · rw [h.first hfirst hsecond, get?_of_not_resolved hothers hmemOthers hsecond]
  · rw [get?_of_not_resolved hdistinct hmem hfirst]
    by_cases hsecond : Resolved others entity
    · exact (h.second hsecond hfirst).symm
    · exact (get?_of_not_resolved hothers hmemOthers hsecond).symm

-- By induction on what is in front: the entities that a value refers to have their values in
-- both orders before the value is looked at.
theorem get?_eq_of_agreesOn (hperm : others.Perm declared)
    (hdistinct : (declared.map (·.name.text)).Nodup)
    (hagree : ∀ entity ∈ declared, AgreesOn declared others entity)
    {before after : List Dtd.InternalDeclaration} (hdeclared : declared = before ++ after) :
    ∀ entity ∈ before, (ofDeclared declared).get? entity.name.text =
      (ofDeclared others).get? entity.name.text := by
  have hothers : (others.map (·.name.text)).Nodup := (hperm.map _).nodup_iff.mpr hdistinct
  induction before using List.reverseRecOn generalizing after with
  | nil => exact nofun
  | append_singleton before entity ih =>
      rw [List.append_assoc, List.singleton_append] at hdeclared
      intro other hother
      rcases List.mem_append.mp hother with hbefore | hlast
      · exact ih hdeclared other hbefore
      · rw [List.mem_singleton.mp hlast]
        have hfront : inFront declared entity.name.text = before := by
          have hapart := inFront_append (distinct_of_append hdistinct hdeclared) after
          rw [← hdeclared] at hapart
          exact hapart
        have hmem : entity ∈ declared := by
          rw [hdeclared]
          exact List.mem_append_right _ List.mem_cons_self
        apply (hagree entity hmem).get?_eq hdistinct hothers hmem (hperm.mem_iff.mpr hmem)
        rw [hfront]
        exact ih hdeclared

theorem foldl_declare_rest (declared : List Dtd.InternalDeclaration) (entities : Entities) :
    ((declared.map (·.declaration)).foldl declare entities).parameters = entities.parameters ∧
      ((declared.map (·.declaration)).foldl declare entities).asked = entities.asked := by
  induction declared generalizing entities with
  | nil => exact ⟨rfl, rfl⟩
  | cons entity more ih =>
      have hparameters := parameters_declareGeneral entities entity.name.text entity.value.text
      have hasked := asked_declare entities entity.declaration
      have hrest := ih (entities.declare entity.declaration)
      exact ⟨hrest.1.trans hparameters, hrest.2.trans hasked⟩

-- Tables of general entities alone are told apart by the values in them.
theorem ofDeclared_eq_iff :
    ofDeclared declared = ofDeclared others ↔
      ∀ name, (ofDeclared declared).get? name = (ofDeclared others).get? name := by
  constructor
  · intro hsame name
    rw [hsame]
  · intro hsame
    have hgeneral : (ofDeclared declared).general = (ofDeclared others).general :=
      Std.ExtTreeMap.ext_getElem? hsame
    have hfirst := foldl_declare_rest declared empty
    have hsecond := foldl_declare_rest others empty
    rw [Entities.mk.injEq]
    exact ⟨hgeneral, hfirst.1.trans hsecond.1.symm, hfirst.2.trans hsecond.2.symm⟩

-- Two orders of the same declarations succeed both, and give the same table exactly when each
-- entity that is resolved in one of them only has there the value that is written.
theorem takeIn_permuted_iff (fetch : String → Except Fault (Option String))
    (hperm : others.Perm declared) (hdistinct : (declared.map (·.name.text)).Nodup) :
    let intake := empty.takeIn fetch (String.ofList (Dtd.Definition.ofInternal declared).written)
    let other := empty.takeIn fetch (String.ofList (Dtd.Definition.ofInternal others).written)
    intake.fault = none ∧ other.fault = none ∧
      (intake = other ↔ ∀ entity ∈ declared,
        (Resolved declared entity → ¬Resolved others entity →
          intake.entities.get? entity.name.text = some entity.value.text) ∧
        (Resolved others entity → ¬Resolved declared entity →
          other.entities.get? entity.name.text = some entity.value.text)) := by
  have hothers : (others.map (·.name.text)).Nodup := (hperm.map _).nodup_iff.mpr hdistinct
  rw [takeIn_ofInternal, takeIn_ofInternal]
  intro intake other
  refine ⟨rfl, rfl, ?_⟩
  rw [Intake.mk.injEq, eq_self, true_and, ofDeclared_eq_iff]
  constructor
  · intro hsame entity hmem
    constructor
    · intro _ hsecond
      exact (hsame _).trans (get?_of_not_resolved hothers (hperm.mem_iff.mpr hmem) hsecond)
    · intro _ hfirst
      exact (hsame _).symm.trans (get?_of_not_resolved hdistinct hmem hfirst)
  · intro hall name
    have hagree : ∀ entity ∈ declared, AgreesOn declared others entity := by
      intro entity hmem
      exact ⟨(hall entity hmem).1, (hall entity hmem).2⟩
    by_cases hname : ∃ entity ∈ declared, entity.name.text = name
    · obtain ⟨entity, hmem, rfl⟩ := hname
      exact get?_eq_of_agreesOn hperm hdistinct hagree (List.append_nil declared).symm entity hmem
    · push Not at hname
      rw [get?_ofDeclared_eq_none hname,
        get?_ofDeclared_eq_none fun entity hmem => hname entity (hperm.mem_iff.mp hmem)]

end Orders

-- A character by its number.
def copyright : Dtd.InternalDeclaration :=
  ⟨.space, ⟨⟨"copy", by decide, List.all_eq_true.mp rfl⟩, by decide, by decide⟩, .space,
    .double "&#169;" (by decide), none⟩

-- An entity that refers to the one above.
def product : Dtd.InternalDeclaration :=
  ⟨.space, ⟨⟨"product", by decide, List.all_eq_true.mp rfl⟩, by decide, by decide⟩, .space,
    .double "Widget &copy;" (by decide), none⟩

theorem takeIn_permuted_product :
    let declared := [copyright, product]
    let others := [product, copyright]
    let intake := empty.takeIn (fun _ => .ok none)
      (String.ofList (Dtd.Definition.ofInternal declared).written)
    let other := empty.takeIn (fun _ => .ok none)
      (String.ofList (Dtd.Definition.ofInternal others).written)
    others.Perm declared ∧ (declared.map (·.name.text)).Nodup ∧
      (intake.fault = none ∧ other.fault = none ∧
        (intake = other ↔ ∀ entity ∈ declared,
          (Resolved declared entity → ¬Resolved others entity →
            intake.entities.get? entity.name.text = some entity.value.text) ∧
          (Resolved others entity → ¬Resolved declared entity →
            other.entities.get? entity.name.text = some entity.value.text))) := by
  have hperm : [product, copyright].Perm [copyright, product] := .swap _ _ _
  have hdistinct : ([copyright, product].map (·.name.text)).Nodup := by decide
  exact ⟨hperm, hdistinct, takeIn_permuted_iff _ hperm hdistinct⟩

-- A value with references to characters, predefined entities and entities of these names only.
def RefersTo (names : List String) (value : String) : Prop :=
  ∃ text, Reference.expand (fun name => if name ∈ names then some "" else none) value = .ok text

theorem RefersTo.mem {names : List String} {value name : String} (h : RefersTo names value)
    (hname : Mentions value.toList name) : name ∈ names := by
  obtain ⟨text, htext⟩ := h
  obtain ⟨found, hfound⟩ := (Reference.expand_eq_ok_iff.mp htext).known hname
  by_contra hnot
  rw [if_neg hnot] at hfound
  cases hfound

-- A value is settled where it stands, even if all that it refers to is declared further on.
theorem not_takeIn_permuted :
    ¬ ∀ (declared others : List Dtd.InternalDeclaration), others.Perm declared →
      (declared.map (·.name.text)).Nodup →
      (∀ entity ∈ declared, Reference.predefined? entity.name.text = none) →
      (∀ entity ∈ declared, RefersTo (declared.map (·.name.text)) entity.value.text) →
      (∀ entity ∈ declared, Resolved declared entity) →
      empty.takeIn (fun _ => .ok none)
          (String.ofList (Dtd.Definition.ofInternal declared).written) =
        empty.takeIn (fun _ => .ok none)
          (String.ofList (Dtd.Definition.ofInternal others).written) := by
  intro hall
  have hcharacter : RefersTo [] "&#169;" := ⟨"©", by decide +kernel⟩
  have hentity : RefersTo ["copy"] "Widget &copy;" := ⟨"Widget ", by decide +kernel⟩
  have hresolved : ∀ entity ∈ [copyright, product], Resolved [copyright, product] entity := by
    intro entity hmem name hname
    simp only [List.mem_cons, List.not_mem_nil, or_false] at hmem
    rcases hmem with rfl | rfl
    · cases hcharacter.mem hname
    · have hcopy : name = "copy" := List.mem_singleton.mp (hentity.mem hname)
      exact ⟨copyright, List.mem_singleton.mpr rfl, hcopy.symm⟩
  have hrefers : ∀ entity ∈ [copyright, product],
      RefersTo ([copyright, product].map (·.name.text)) entity.value.text := by
    intro entity hmem
    simp only [List.mem_cons, List.not_mem_nil, or_false] at hmem
    rcases hmem with rfl | rfl
    · exact ⟨"©", by decide +kernel⟩
    · exact ⟨"Widget ", by decide +kernel⟩
  have hsame := hall [copyright, product] [product, copyright] (.swap _ _ _) (by decide)
    (by decide) hrefers hresolved
  have hfirst : (empty.takeIn (fun _ => .ok none) (String.ofList
      (Dtd.Definition.ofInternal [copyright, product]).written)).entities.get? "product" =
        some "Widget ©" := by
    decide +kernel
  have hsecond : (empty.takeIn (fun _ => .ok none) (String.ofList
      (Dtd.Definition.ofInternal [product, copyright]).written)).entities.get? "product" =
        some "Widget &copy;" := by
    decide +kernel
  rw [hsame, hsecond] at hfirst
  exact absurd hfirst (by decide)

end Entities

end TemplateMarkup
