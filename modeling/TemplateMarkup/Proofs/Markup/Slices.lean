import TemplateMarkup.Markup.Document
import TemplateMarkup.Proofs.Entities.Slices

namespace TemplateMarkup.Markup

-- The bytes from one place up to another, if these are in order and within the bytes.
def byteSlice? (bytes : Array UInt8) (start stop : Nat) : Option (Array UInt8) :=
  if start ≤ stop ∧ stop ≤ bytes.size then some (bytes.extract start stop) else none

namespace LineCursor

def moveBySlice? (cursor : LineCursor) (position : Nat) : Option LineCursor :=
  moveToM byteSlice? cursor position

-- Wherever a cursor stands, it has something to count up to any position ahead.
theorem moveBySlice?_eq (cursor : LineCursor) (position : Nat) :
    cursor.moveBySlice? position = some (cursor.moveTo position) := by
  unfold moveBySlice? moveTo moveToM
  dsimp only
  split
  · rfl
  · rename_i hahead
    have hwithin := Nat.min_le_right position cursor.bytes.size
    have hfits : cursor.counted ≤ min position cursor.bytes.size ∧
        min position cursor.bytes.size ≤ cursor.bytes.size :=
      ⟨Nat.le_of_not_le hahead, hwithin⟩
    rw [byteSlice?, if_pos hfits]
    rfl

end LineCursor

section Pure

variable {m : Type → Type} [Monad m] {cutter : Cutter m}

-- Cutting up without any effect what is read.
structure Cutter.IsPure (cutter : Cutter m) : Prop where
  declarations : ∀ text, cutter.declarations text = pure (Dtd.declarations text)
  doctype : ∀ content, cutter.doctype content = pure (Doctype.ofText content)
  moveTo : ∀ cursor position, cutter.moveTo cursor position = pure (cursor.moveTo position)

variable [LawfulMonad m]

theorem takeNamedM_eq_pure (h : cutter.IsPure) (fetch : String → Except Fault (Option String))
    (inner : Entities.Intake) (publicId : Option String) :
    takeNamedM cutter fetch inner publicId =
      pure (takeNamedM (m := Id) .plain fetch inner publicId) := by
  unfold takeNamedM
  cases inner.fault with
  | some fault => rfl
  | none =>
      cases publicId with
      | none => rfl
      | some publicId =>
          dsimp only
          rw [Entities.consultM_eq_pure h.declarations, pure_bind]
          rfl

theorem takeDoctypeM_eq_pure (h : cutter.IsPure) (fetch : String → Except Fault (Option String))
    (entities : Entities) (doctype : Doctype) :
    takeDoctypeM cutter fetch entities doctype = pure (takeDoctype fetch entities doctype) := by
  have hinner : doctype.subset.elim (pure ⟨none, entities⟩)
      (Entities.takeInM cutter.declarations fetch entities) =
        pure (doctype.subset.elim ⟨none, entities⟩ (Entities.takeIn fetch entities)) := by
    cases doctype.subset with
    | none => rfl
    | some subset => exact Entities.takeInM_eq_pure h.declarations entities subset
  rw [takeDoctypeM, hinner, pure_bind, takeNamedM_eq_pure h]
  rfl

theorem readDoctypeM_eq_pure (h : cutter.IsPure) (around : Surroundings) (reading : Reading)
    (line : Nat) (content : List Char) :
    readDoctypeM cutter around reading line content =
      pure (readDoctype around reading line content) := by
  rw [readDoctypeM, h.doctype, pure_bind, takeDoctypeM_eq_pure h, pure_bind]
  rfl

theorem readChunkM_eq_pure (h : cutter.IsPure) (around : Surroundings) (reading : Reading)
    (chunk : Chunk) :
    readChunkM cutter around reading chunk = pure (readChunk around reading chunk) := by
  simp only [readChunkM, h.moveTo, pure_bind]
  unfold readChunk readChunkM
  dsimp only [bind, Cutter.plain]
  cases chunk.piece with
  | error cause => rfl
  | ok piece =>
      cases piece with
      | doctype content => exact readDoctypeM_eq_pure h around _ _ content
      | _ => rfl

theorem readChunksM_eq_pure (h : cutter.IsPure) (around : Surroundings) (found : List Chunk)
    (reading : Reading) :
    readChunksM cutter around found reading = pure (readChunks around found reading) := by
  induction found generalizing reading with
  | nil =>
      rw [readChunksM, h.moveTo, pure_bind]
      rfl
  | cons chunk more ih =>
      rw [readChunksM, readChunkM_eq_pure h, pure_bind, readChunks_cons]
      cases readChunk around reading chunk with
      | error fault => rfl
      | ok result =>
          dsimp only
          rw [ih, pure_bind]

theorem eventsM_eq_pure (h : cutter.IsPure) (around : Surroundings) (text : String) :
    eventsM cutter around text = pure (events around text) := by
  rw [eventsM, readChunksM_eq_pure h, pure_bind]
  rfl

end Pure

-- Every slice that is taken on the way is checked.
def Cutter.bySlices : Cutter Option :=
  ⟨Dtd.declarationsBySlices?, Doctype.ofTextBySlices?, LineCursor.moveBySlice?⟩

theorem isPure_bySlices : Cutter.bySlices.IsPure :=
  ⟨Dtd.declarationsBySlices?_eq, Doctype.ofTextBySlices?_eq, LineCursor.moveBySlice?_eq⟩

def eventsBySlices? (around : Surroundings) (text : String) : Option EventStream :=
  eventsM .bySlices around text

-- No slice is ever wrong: whatever is read, cutting it up by checked slices goes through and comes
-- to what reading it comes to.
theorem slices_go_through :
    (∀ text, Text.Fragment.splitBySlices? text = some (Text.Fragment.split text)) ∧
      (∀ content, Doctype.ofTextBySlices? content = some (Doctype.ofText content)) ∧
      (∀ fetch entities text, Entities.takeInBySlices? fetch entities text =
        some (Entities.takeIn fetch entities text)) ∧
      ∀ around text, eventsBySlices? around text = some (events around text) :=
  ⟨Text.Fragment.splitBySlices?_eq, Doctype.ofTextBySlices?_eq, Entities.takeInBySlices?_eq,
    eventsM_eq_pure isPure_bySlices⟩

end TemplateMarkup.Markup
