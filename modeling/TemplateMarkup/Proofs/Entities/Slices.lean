import TemplateMarkup.Entities
import TemplateMarkup.Proofs.Dtd.Slices

namespace TemplateMarkup.Entities

section Pure

-- Where cutting up texts has no effect, reading them has none either, whatever the monad.
variable {m : Type → Type} [Monad m] [LawfulMonad m] {fetch : String → Except Fault (Option String)}
  {below : Entities → String → Intake} {belowM : Entities → String → m Intake}
  {cut : String → m (List Dtd.Declaration)}

theorem consultWithM_eq_pure
    (hbelow : ∀ entities text, belowM entities text = pure (below entities text))
    (entities : Entities) (publicId : String) :
    consultWithM fetch belowM entities publicId =
      pure (consultWith fetch below entities publicId) := by
  unfold consultWith consultWithM
  split
  · rfl
  · cases fetch publicId with
    | error fault => rfl
    | ok found =>
        cases found with
        | none => rfl
        | some text =>
            dsimp only
            rw [hbelow, pure_bind]
            rfl

theorem bringInM_eq_pure
    (hbelow : ∀ entities text, belowM entities text = pure (below entities text))
    (entities : Entities) (name : String) :
    bringInM fetch belowM entities name = pure (bringIn fetch below entities name) := by
  unfold bringIn bringInM
  rcases entities.parameters[name]? with _ | ⟨value⟩ | ⟨_ | publicId⟩
  · rfl
  · exact hbelow entities value
  · rfl
  · dsimp only
    rw [consultWithM_eq_pure hbelow, pure_bind]
    rfl

theorem declareAllM_eq_pure
    (hbelow : ∀ entities text, belowM entities text = pure (below entities text))
    (found : List Dtd.Declaration) (entities : Entities) :
    declareAllM fetch belowM found entities = pure (declareAll fetch below found entities) := by
  induction found generalizing entities with
  | nil => rfl
  | cons declaration more ih =>
      cases declaration with
      | general name value => exact ih _
      | parameter name entity => exact ih _
      | reference name =>
          rw [declareAllM, bringInM_eq_pure hbelow, pure_bind, declareAll_reference]
          cases (bringIn fetch below entities name).fault with
          | some fault => rfl
          | none => exact ih _

theorem takeInWithinM_eq_pure (hcut : ∀ text, cut text = pure (Dtd.declarations text))
    (levels : Nat) (entities : Entities) (text : String) :
    takeInWithinM cut fetch levels entities text =
      pure (takeInWithin fetch levels entities text) := by
  induction levels generalizing entities text with
  | zero => rfl
  | succ levels ih =>
      rw [takeInWithinM, hcut, pure_bind]
      exact declareAllM_eq_pure ih _ entities

theorem takeInM_eq_pure (hcut : ∀ text, cut text = pure (Dtd.declarations text))
    (entities : Entities) (text : String) :
    takeInM cut fetch entities text = pure (takeIn fetch entities text) :=
  takeInWithinM_eq_pure hcut _ entities text

theorem consultM_eq_pure (hcut : ∀ text, cut text = pure (Dtd.declarations text))
    (entities : Entities) (publicId : String) :
    consultM cut fetch entities publicId = pure (consult fetch entities publicId) :=
  consultWithM_eq_pure (takeInWithinM_eq_pure hcut maxNesting) entities publicId

end Pure

-- Takes in the declarations of a definition, with every text in them cut out of its whole.
def takeInBySlices? (fetch : String → Except Fault (Option String)) (entities : Entities)
    (text : String) : Option Intake :=
  takeInM Dtd.declarationsBySlices? fetch entities text

theorem takeInBySlices?_eq (fetch : String → Except Fault (Option String)) (entities : Entities)
    (text : String) :
    takeInBySlices? fetch entities text = some (takeIn fetch entities text) :=
  takeInM_eq_pure Dtd.declarationsBySlices?_eq entities text

end TemplateMarkup.Entities
