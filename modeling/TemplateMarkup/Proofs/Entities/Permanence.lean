import TemplateMarkup.Markup.Document
import TemplateMarkup.Proofs.Entities.Answers

namespace TemplateMarkup.Entities

open StateTransition (eval)

-- A document type brings in the declarations in it, and then those of the definition that it
-- names.
theorem takeDoctype_eq_andThen (fetch : String → Except Fault (Option String))
    (entities : Entities) (doctype : Doctype) :
    Markup.takeDoctype fetch entities doctype =
      (doctype.subset.elim ⟨none, entities⟩ (takeIn fetch entities)).andThen fun inner =>
        doctype.publicId.elim ⟨none, inner⟩ fun publicId =>
          (consult fetch inner publicId).intake := by
  obtain ⟨name, publicId, systemId, subset⟩ := doctype
  unfold Markup.takeDoctype Markup.takeDoctypeM Markup.takeNamedM takeIn Intake.andThen
  dsimp only [bind, pure, Markup.Cutter.plain]
  rcases (subset.elim ⟨none, entities⟩ (takeInM (m := Id) Dtd.declarations fetch entities) :
    Intake) with ⟨_ | fault, inner⟩
  · cases publicId <;> rfl
  · rfl

section Lasting

variable {fetch : String → Except Fault (Option String)} {P : Entities → Prop}
  {entities : Entities}

namespace Lasting

theorem intake (h : Lasting P) (call : Call) (hentities : P entities) :
    P (call.intake entities).entities := by
  obtain ⟨walk, hwalk, hleft, -⟩ := call.exists_mem_eval entities
  rw [← hleft]
  exact h.invariant.of_call hwalk hentities

theorem after (h : Lasting P) (calls : List Call) (hentities : P entities) :
    P (after calls entities) := by
  induction calls generalizing entities with
  | nil => exact hentities
  | cons call calls ih => exact ih (h.intake call hentities)

-- What the declarations in a document type bring about is not ended by those of the definition
-- that it names.
theorem takeDoctype (h : Lasting P) {doctype : Doctype} {subset : String}
    (hsubset : doctype.subset = some subset)
    (hinner : P (entities.takeIn fetch subset).entities) :
    P (Markup.takeDoctype fetch entities doctype).entities := by
  rw [takeDoctype_eq_andThen, hsubset, Option.elim_some, Intake.andThen]
  split
  · exact hinner
  · cases doctype.publicId with
    | none => exact hinner
    | some publicId => exact h.intake ⟨fetch, .publicId publicId⟩ hinner

end Lasting

theorem size_le_declare (entities : Entities) (declaration : Dtd.Declaration) :
    entities.size ≤ (entities.declare declaration).size := by
  cases declaration with
  | general name value =>
      rw [declare, declareGeneral]
      split
      · exact Nat.le_refl _
      · exact Std.ExtTreeMap.size_le_size_insert
  | parameter name entity =>
      rw [declare, declareParameter]
      split <;> exact Nat.le_refl _
  | reference name => exact Nat.le_refl _

theorem lasting_size (bound : Nat) : Lasting fun entities => bound ≤ entities.size where
  declare := fun declaration h => Nat.le_trans h (size_le_declare _ declaration)
  ask := fun _ h => h

end Lasting

section Definitions

variable {fetch : String → Except Fault (Option String)} {name : String}

-- While nothing goes wrong, a declaration that is ahead comes to be known.
theorem invariant_held (name : String) :
    Invariant fetch fun walk => walk.fault = none → Held walk name where
  finish := fun hlevels h hfault => (h hfault).finish hlevels
  declare := fun hlevels h hfault => (h hfault).declare hlevels
  enter := fun depth text h hfault => (h (by rwa [Walk.fault_enter] at hfault)).enter depth text
  request := by
    intro walk depth publicId h
    apply request_kept (P := fun walk => walk.fault = none → Held walk name) h
    · exact fun _ hfault => h hfault
    · exact fun _ _ _ => nofun
    · intro next depth text hnext hfault
      rw [Walk.fault_enter] at hfault
      exact (hnext hfault).enter depth text

-- A definition that is taken in without a fault leaves all general entities in it known.
theorem knows_takeIn (entities : Entities) (text : String)
    (h : (entities.takeIn fetch text).fault = none) :
    (entities.takeIn fetch text).entities.Knows text := by
  intro name value hdeclared
  let call : Call := ⟨fetch, .text text⟩
  obtain ⟨walk, hwalk, hleft, hfault⟩ := call.exists_mem_eval entities
  have hstart : Held (call.start entities) name := by
    refine .inr ⟨⟨0, Dtd.declarations text⟩, List.mem_cons_self, _, hdeclared, ?_⟩
    simp [Dtd.Declaration.defines]
  have hheld := (invariant_held name).of_mem_eval hwalk (fun _ => hstart) (hfault.trans h)
  obtain ⟨replacement, hknown⟩ := hheld.known (levels_eq_nil_of_mem_eval hwalk)
  rw [hleft] at hknown
  exact ⟨replacement, hknown⟩

end Definitions

theorem after_append (earlier later : List Call) (entities : Entities) :
    after (earlier ++ later) entities = after later (after earlier entities) :=
  List.foldl_append

-- What is known of an entity stays as it is, and no entity is forgotten, whatever is taken in or
-- asked for later and however that ends. So the general entities that a document type declares
-- itself are known with the same values behind the definition that it names.
theorem get?_after_append (earlier later : List Call) :
    let entities := after (earlier ++ later) empty
    (∀ name value, (after earlier empty).get? name = some value →
      entities.get? name = some value) ∧
    (after earlier empty).size ≤ entities.size ∧
    ∀ fetch (doctype : Doctype) subset, doctype.subset = some subset →
      let inner := entities.takeIn fetch subset
      let outer := (Markup.takeDoctype fetch entities doctype).entities
      (inner.fault = none → inner.entities.Knows subset) ∧
        ∀ name value, inner.entities.get? name = some value → outer.get? name = some value := by
  intro entities
  have hentities : entities = after later (after earlier empty) := after_append earlier later empty
  refine ⟨fun name value h => ?_, ?_, fun fetch doctype subset hsubset => ⟨?_, ?_⟩⟩
  · rw [hentities]
    exact (lasting_get? name value).after later h
  · rw [hentities]
    exact (lasting_size _).after later (Nat.le_refl _)
  · exact knows_takeIn entities subset
  · exact fun name value h => (lasting_get? name value).takeDoctype hsubset h

-- One definition can be had, and reading any other fails.
def fetchOutside (publicId : String) : Except Fault (Option String) :=
  if publicId = "outside" then .ok (some "<!ENTITY b 'outside'>")
  else .error (.unreachableResource publicId "x.dtd" .notFound none)

theorem get?_after_append_redeclared :
    let earlier : List Call := [⟨fetchOutside, .text "<!ENTITY a '1'>"⟩]
    let failing : Call :=
      ⟨fetchOutside, .text "<!ENTITY a '2'><!ENTITY % x PUBLIC 'x' 'x'>%x;<!ENTITY c '3'>"⟩
    let doctype : Doctype := ⟨"p", some "outside", none, some "<!ENTITY b 'inside'>"⟩
    let entities := after (earlier ++ [failing]) empty
    (failing.intake (after earlier empty)).fault.isSome = true ∧
      (after earlier empty).get? "a" = some "1" ∧ entities.get? "a" = some "1" ∧
      (entities.takeIn fetchOutside "<!ENTITY b 'inside'>").entities.get? "b" = some "inside" ∧
      (Markup.takeDoctype fetchOutside entities doctype).entities.get? "b" = some "inside" := by
  intro earlier failing doctype entities
  have hfails : (failing.intake (after earlier empty)).fault.isSome = true := by
    decide +kernel
  have hearlier : (after earlier empty).get? "a" = some "1" := by
    decide +kernel
  have hinner : (entities.takeIn fetchOutside "<!ENTITY b 'inside'>").entities.get? "b" =
      some "inside" := by
    decide +kernel
  obtain ⟨hkept, -, hdoctype⟩ := get?_after_append earlier [failing]
  have houter := (hdoctype fetchOutside doctype "<!ENTITY b 'inside'>" rfl).2 "b" "inside" hinner
  exact ⟨hfails, hearlier, hkept "a" "1" hearlier, hinner, houter⟩

end TemplateMarkup.Entities
