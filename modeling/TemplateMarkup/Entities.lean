import Std.Data.ExtTreeMap
import TemplateMarkup.Dtd.Declaration
import TemplateMarkup.Fault
import TemplateMarkup.Markup.Reference

namespace TemplateMarkup

-- What the document type definitions read so far have declared.
structure Entities where
  general : Std.ExtTreeMap String String
  parameters : Std.ExtTreeMap String Dtd.ParameterEntity
  -- The public identifiers whose text has been asked for, latest first.
  asked : List String

namespace Entities

def empty : Entities :=
  ⟨∅, ∅, []⟩

-- The replacement text of a general entity.
def get? (entities : Entities) (name : String) : Option String :=
  entities.general[name]?

def size (entities : Entities) : Nat :=
  entities.general.size

def isEmpty (entities : Entities) : Bool :=
  entities.general.isEmpty

-- The value of an entity with the references in it replaced by what is known now. A value in
-- which that is impossible stays as written.
def settle (entities : Entities) (value : String) : String :=
  match Reference.expand entities.get? value with
  | .ok expanded => expanded
  | .error _ => value

-- The first declaration of a name counts.
def declareGeneral (entities : Entities) (name value : String) : Entities :=
  if entities.general.contains name then entities
  else { entities with general := entities.general.insert name (entities.settle value) }

def declareParameter (entities : Entities) (name : String) (entity : Dtd.ParameterEntity) :
    Entities :=
  if entities.parameters.contains name then entities
  else { entities with parameters := entities.parameters.insert name entity }

-- The entities after a reading, which may have come to a fault half way.
structure Intake where
  fault : Option Fault
  entities : Entities

-- The answer to a request for an external definition: whether its identifier is known.
structure Consultation where
  known : Except Fault Bool
  entities : Entities

-- What an answer leaves, whether or not it knows the identifier.
def Consultation.intake (answer : Consultation) : Intake :=
  match answer.known with
  | .error fault => ⟨some fault, answer.entities⟩
  | .ok _ => ⟨none, answer.entities⟩

-- The answer for an identifier whose text has been read.
def Intake.answer (intake : Intake) : Consultation :=
  match intake.fault with
  | some fault => ⟨.error fault, intake.entities⟩
  | none => ⟨.ok true, intake.entities⟩

section Cutting

-- Definitions are cut up in some monad, for cutting may be something that can go wrong.
variable {m : Type → Type} [Monad m] (declarations : String → m (List Dtd.Declaration))
  (fetch : String → Except Fault (Option String)) (below : Entities → String → m Intake)

-- Asks for the definition of a public identifier, unless that has been done before. `below`
-- reads the text that comes back.
def consultWithM (entities : Entities) (publicId : String) : m Consultation :=
  if entities.asked.contains publicId then
    return ⟨.ok true, entities⟩
  else
    let entities := { entities with asked := publicId :: entities.asked }
    match fetch publicId with
    | .error fault => return ⟨.error fault, entities⟩
    | .ok none => return ⟨.ok false, entities⟩
    | .ok (some text) => do
      let intake ← below entities text
      return intake.answer

-- Takes in what a reference to a parameter entity brings in.
def bringInM (entities : Entities) (name : String) : m Intake :=
  match entities.parameters[name]? with
  | some (.text value) => below entities value
  | some (.external (some publicId)) => do
    let answer ← consultWithM fetch below entities publicId
    return answer.intake
  | _ => return ⟨none, entities⟩

-- Takes in declarations in order, up to the first fault.
def declareAllM : List Dtd.Declaration → Entities → m Intake
  | [], entities => return ⟨none, entities⟩
  | .general name value :: more, entities => declareAllM more (entities.declareGeneral name value)
  | .parameter name entity :: more, entities =>
    declareAllM more (entities.declareParameter name entity)
  | .reference name :: more, entities => do
    let intake ← bringInM fetch below entities name
    match intake.fault with
    | some _ => return intake
    | none => declareAllM more intake.entities

-- Reads a definition that may bring in others, nested at most `levels` deep with this one.
-- What is nested deeper is ignored.
def takeInWithinM : Nat → Entities → String → m Intake
  | 0, entities, _ => return ⟨none, entities⟩
  | levels + 1, entities, text => do
    let found ← declarations text
    declareAllM fetch (fun entities text => takeInWithinM levels entities text) found entities

-- How many definitions may be nested in the outermost one.
def maxNesting : Nat :=
  8

-- Takes in the declarations of a definition.
def takeInM (entities : Entities) (text : String) : m Intake :=
  takeInWithinM declarations fetch (maxNesting + 1) entities text

-- Takes in the definition that a public identifier names.
def consultM (entities : Entities) (publicId : String) : m Consultation :=
  consultWithM fetch (takeInWithinM declarations fetch maxNesting) entities publicId

end Cutting

section Plain

-- The same where cutting up cannot go wrong.
variable (fetch : String → Except Fault (Option String)) (below : Entities → String → Intake)

def consultWith (entities : Entities) (publicId : String) : Consultation :=
  consultWithM (m := Id) fetch below entities publicId

def bringIn (entities : Entities) (name : String) : Intake :=
  bringInM (m := Id) fetch below entities name

def declareAll (found : List Dtd.Declaration) (entities : Entities) : Intake :=
  declareAllM (m := Id) fetch below found entities

def takeInWithin (levels : Nat) (entities : Entities) (text : String) : Intake :=
  takeInWithinM (m := Id) Dtd.declarations fetch levels entities text

def takeIn (entities : Entities) (text : String) : Intake :=
  takeInM (m := Id) Dtd.declarations fetch entities text

def consult (entities : Entities) (publicId : String) : Consultation :=
  consultM (m := Id) Dtd.declarations fetch entities publicId

theorem declareAll_reference (name : String) (more : List Dtd.Declaration) (entities : Entities) :
    declareAll fetch below (.reference name :: more) entities =
      match (bringIn fetch below entities name).fault with
      | some _ => bringIn fetch below entities name
      | none => declareAll fetch below more (bringIn fetch below entities name).entities :=
  rfl

theorem takeInWithin_succ (levels : Nat) (entities : Entities) (text : String) :
    takeInWithin fetch (levels + 1) entities text =
      declareAll fetch (takeInWithin fetch levels) (Dtd.declarations text) entities :=
  rfl

theorem takeIn_eq (entities : Entities) (text : String) :
    takeIn fetch entities text = takeInWithin fetch (maxNesting + 1) entities text :=
  rfl

theorem consult_eq (entities : Entities) (publicId : String) :
    consult fetch entities publicId =
      consultWith fetch (takeInWithin fetch maxNesting) entities publicId :=
  rfl

end Plain

end Entities

end TemplateMarkup
