import Mathlib.Computability.StateTransition
import TemplateMarkup.Proofs.Entities.Intake

namespace TemplateMarkup.Entities

open StateTransition (Reaches eval)

-- What reading definitions does, in order.
inductive Visit where
  | declaration (depth : Nat) (declaration : Dtd.Declaration)
  | request (depth : Nat) (publicId : String)

-- The public identifier that the text is asked for.
def Visit.asked? : Visit → Option String
  | .declaration _ _ => none
  | .request _ publicId => some publicId

-- A definition that is being read, with what of it is still ahead.
structure Level where
  depth : Nat
  pending : List Dtd.Declaration

-- Definitions being read declaration by declaration, with no bound on how long that takes. The
-- innermost definition comes first.
structure Walk where
  levels : List Level
  entities : Entities
  fault : Option Fault
  visits : List Visit

namespace Walk

def rest (entities : Entities) : Walk :=
  ⟨[], entities, none, []⟩

-- Goes into a text, unless it is nested too deep.
def enter (walk : Walk) (depth : Nat) (text : String) : Walk :=
  if maxNesting < depth then walk
  else { walk with levels := ⟨depth, Dtd.declarations text⟩ :: walk.levels }

@[simp]
theorem entities_enter (walk : Walk) (depth : Nat) (text : String) :
    (walk.enter depth text).entities = walk.entities := by
  unfold enter
  split
  · rfl
  · rfl

@[simp]
theorem fault_enter (walk : Walk) (depth : Nat) (text : String) :
    (walk.enter depth text).fault = walk.fault := by
  unfold enter
  split
  · rfl
  · rfl

@[simp]
theorem visits_enter (walk : Walk) (depth : Nat) (text : String) :
    (walk.enter depth text).visits = walk.visits := by
  unfold enter
  split
  · rfl
  · rfl

-- Goes on behind a declaration of the innermost definition.
def past (walk : Walk) (depth : Nat) (declaration : Dtd.Declaration)
    (more : List Dtd.Declaration) (outer : List Level) : Walk :=
  { walk with
    levels := ⟨depth, more⟩ :: outer
    visits := walk.visits ++ [.declaration depth declaration] }

-- Remembers a public identifier.
def ask (walk : Walk) (depth : Nat) (publicId : String) : Walk :=
  { walk with
    entities := { walk.entities with asked := publicId :: walk.entities.asked }
    visits := walk.visits ++ [.request depth publicId] }

-- A fault ends all the definitions.
def fail (walk : Walk) (fault : Fault) : Walk :=
  { walk with levels := [], fault := some fault }

section Moving

variable (fetch : String → Except Fault (Option String))

-- Asks for the text of a public identifier, unless that has been done before.
def request (walk : Walk) (depth : Nat) (publicId : String) : Walk :=
  if walk.entities.asked.contains publicId then walk
  else
    match fetch publicId with
    | .error fault => (walk.ask depth publicId).fail fault
    | .ok none => walk.ask depth publicId
    | .ok (some text) => (walk.ask depth publicId).enter (depth + 1) text

def take (walk : Walk) (depth : Nat) (declaration : Dtd.Declaration) : Walk :=
  match declaration with
  | .reference name =>
    match walk.entities.parameters[name]? with
    | some (.text value) => walk.enter (depth + 1) value
    | some (.external (some publicId)) => walk.request fetch depth publicId
    | _ => walk
  | _ => { walk with entities := walk.entities.declare declaration }

-- A definition that is done gives way to the one around it.
def step (walk : Walk) : Option Walk :=
  match walk.levels with
  | [] => none
  | ⟨_, []⟩ :: outer => some { walk with levels := outer }
  | ⟨depth, declaration :: more⟩ :: outer =>
    some ((walk.past depth declaration more outer).take fetch depth declaration)

end Moving

-- Where a walk is when all that a definition brings in has been read.
def leave (walk : Walk) (intake : Intake) (visits : List Visit) : Walk :=
  match intake.fault with
  | none => { walk with entities := intake.entities, visits := walk.visits ++ visits }
  | some fault => ⟨[], intake.entities, some fault, walk.visits ++ visits⟩

end Walk

section Intakes

variable {fetch : String → Except Fault (Option String)} {below : Entities → String → Intake}
  {entities : Entities} {publicId text : String}

-- Goes on to a next intake, unless there is a fault.
def Intake.andThen (intake : Intake) (next : Entities → Intake) : Intake :=
  match intake.fault with
  | some _ => intake
  | none => next intake.entities

-- Takes in one declaration with all that it brings in.
def intakeOf (fetch : String → Except Fault (Option String)) (below : Entities → String → Intake)
    (entities : Entities) (declaration : Dtd.Declaration) : Intake :=
  match declaration with
  | .reference name => bringIn fetch below entities name
  | _ => ⟨none, entities.declare declaration⟩

theorem declareAll_cons (declaration : Dtd.Declaration) (more : List Dtd.Declaration) :
    declareAll fetch below (declaration :: more) entities =
      (intakeOf fetch below entities declaration).andThen (declareAll fetch below more) := by
  cases declaration with
  | general name value => rfl
  | parameter name entity => rfl
  | reference name => rfl

theorem consultWith_of_mem (h : publicId ∈ entities.asked) :
    consultWith fetch below entities publicId = ⟨.ok true, entities⟩ := by
  rw [consultWith, consultWithM, if_pos (List.contains_iff_mem.mpr h)]
  rfl

theorem intake_consultWith (h : publicId ∉ entities.asked) :
    (consultWith fetch below entities publicId).intake =
      match fetch publicId with
      | .error fault => ⟨some fault, { entities with asked := publicId :: entities.asked }⟩
      | .ok none => ⟨none, { entities with asked := publicId :: entities.asked }⟩
      | .ok (some text) => below { entities with asked := publicId :: entities.asked } text := by
  rw [consultWith, consultWithM, if_neg (mt List.contains_iff_mem.mp h)]
  cases fetch publicId with
  | error fault => rfl
  | ok text? =>
      cases text? with
      | none => rfl
      | some text =>
          rw [Consultation.intake]
          dsimp only
          rcases below { entities with asked := publicId :: entities.asked } text with
            ⟨_ | fault, entities⟩
          · rfl
          · rfl

end Intakes

section Simulation

variable {fetch : String → Except Fault (Option String)} {below : Entities → String → Intake}
  {depth : Nat} {walk start : Walk} {intake : Intake}

-- From `start`, reading comes to the end of what makes up an intake in `walk`.
def Brings (fetch : String → Except Fault (Option String)) (start walk : Walk)
    (intake : Intake) : Prop :=
  ∃ visits, Reaches (Walk.step fetch) start (walk.leave intake visits)

theorem Brings.done (fetch : String → Except Fault (Option String)) (walk : Walk) :
    Brings fetch walk walk ⟨none, walk.entities⟩ := by
  refine ⟨[], ?_⟩
  rw [Walk.leave, List.append_nil]
  exact Relation.ReflTransGen.refl

theorem Brings.trans {next : Walk} (h : Brings fetch next walk intake)
    (hreaches : Reaches (Walk.step fetch) start next) : Brings fetch start walk intake := by
  obtain ⟨visits, hbrings⟩ := h
  exact ⟨visits, Relation.ReflTransGen.trans hreaches hbrings⟩

-- What has been done before belongs to the same intake.
theorem Brings.of_before {entities : Entities} {before : List Visit}
    (h : Brings fetch start { walk with entities := entities, visits := walk.visits ++ before }
      intake) :
    Brings fetch start walk intake := by
  obtain ⟨visits, hreaches⟩ := h
  refine ⟨before ++ visits, ?_⟩
  unfold Walk.leave at hreaches ⊢
  cases hfault : intake.fault with
  | none => simpa [hfault] using hreaches
  | some fault => simpa [hfault] using hreaches

-- Going into a text at a depth comes to what `below` makes of it.
def Follows (fetch : String → Except Fault (Option String)) (depth : Nat)
    (below : Entities → String → Intake) : Prop :=
  ∀ walk text, Brings fetch (walk.enter depth text) walk (below walk.entities text)

theorem brings_request (hbelow : Follows fetch (depth + 1) below) (walk : Walk)
    (publicId : String) :
    Brings fetch (walk.request fetch depth publicId) walk
      (consultWith fetch below walk.entities publicId).intake := by
  rw [Walk.request]
  split
  · rename_i hasked
    rw [consultWith_of_mem (List.contains_iff_mem.mp hasked)]
    exact Brings.done fetch walk
  · rename_i hasked
    rw [intake_consultWith (mt List.contains_iff_mem.mpr hasked)]
    cases fetch publicId with
    | error fault => exact ⟨[.request depth publicId], Relation.ReflTransGen.refl⟩
    | ok text? =>
        cases text? with
        | none => exact ⟨[.request depth publicId], Relation.ReflTransGen.refl⟩
        | some text => exact Brings.of_before (hbelow (walk.ask depth publicId) text)

theorem brings_take (hbelow : Follows fetch (depth + 1) below) (walk : Walk)
    (declaration : Dtd.Declaration) :
    Brings fetch (walk.take fetch depth declaration) walk
      (intakeOf fetch below walk.entities declaration) := by
  have hdeclare : Brings fetch { walk with entities := walk.entities.declare declaration } walk
      ⟨none, walk.entities.declare declaration⟩ := by
    apply Brings.of_before
    rw [List.append_nil]
    exact Brings.done fetch { walk with entities := walk.entities.declare declaration }
  cases declaration with
  | general name value => exact hdeclare
  | parameter name entity => exact hdeclare
  | reference name =>
      rw [Walk.take, intakeOf, bringIn, bringInM]
      rcases walk.entities.parameters[name]? with _ | ⟨value⟩ | ⟨_ | publicId⟩
      · exact Brings.done fetch walk
      · exact hbelow walk value
      · exact Brings.done fetch walk
      · exact brings_request hbelow walk publicId

-- By induction on what is ahead: each declaration is read with all that it brings in.
theorem brings_declareAll (hbelow : Follows fetch (depth + 1) below)
    (declarations : List Dtd.Declaration) (walk : Walk) :
    Brings fetch { walk with levels := ⟨depth, declarations⟩ :: walk.levels } walk
      (declareAll fetch below declarations walk.entities) := by
  induction declarations generalizing walk with
  | nil => exact (Brings.done fetch walk).trans (Relation.ReflTransGen.single rfl)
  | cons declaration more ih =>
      refine Brings.trans ?_ (Relation.ReflTransGen.single rfl)
      obtain ⟨visits, hfirst⟩ :=
        brings_take hbelow (walk.past depth declaration more walk.levels) declaration
      let here := intakeOf fetch below walk.entities declaration
      rw [declareAll_cons]
      cases hfault : here.fault with
      | some fault =>
          have hhere : here.andThen (declareAll fetch below more) = here := by
            rw [Intake.andThen, hfault]
          have hleave : (walk.past depth declaration more walk.levels).leave here visits =
              walk.leave here (.declaration depth declaration :: visits) := by
            simp [Walk.leave, Walk.past, hfault]
          rw [hhere]
          exact ⟨_, hleave ▸ hfirst⟩
      | none =>
          have hhere : here.andThen (declareAll fetch below more) =
              declareAll fetch below more here.entities := by
            rw [Intake.andThen, hfault]
          let inner : Walk :=
            { walk with
              entities := here.entities
              visits := walk.visits ++ .declaration depth declaration :: visits }
          have hleave : (walk.past depth declaration more walk.levels).leave here visits =
              { inner with levels := ⟨depth, more⟩ :: inner.levels } := by
            simp [Walk.leave, Walk.past, hfault, inner]
          rw [hhere]
          apply Brings.of_before
          exact (ih inner).trans (hleave ▸ hfirst)

-- By induction on the levels that are left: the walk keeps to them without counting.
theorem follows_takeInWithin {levels : Nat} (h : levels + depth = maxNesting + 1) :
    Follows fetch depth (takeInWithin fetch levels) := by
  induction levels generalizing depth with
  | zero =>
      intro walk text
      have hdepth : maxNesting < depth := by omega
      rw [Walk.enter, if_pos hdepth]
      exact Brings.done fetch walk
  | succ levels ih =>
      intro walk text
      have hdepth : ¬maxNesting < depth := by omega
      have hinner : levels + (depth + 1) = maxNesting + 1 := by omega
      rw [Walk.enter, if_neg hdepth]
      exact brings_declareAll (ih hinner) (Dtd.declarations text) walk

end Simulation

end TemplateMarkup.Entities
