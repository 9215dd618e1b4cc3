import TemplateMarkup.Assembly.Step
import TemplateMarkup.Proofs.Assembly.Element

namespace TemplateMarkup

-- Whether an event begins or ends an element.
def Event.isTag : Event → Bool
  | .elementStart .. | .elementEnd .. => true
  | _ => false

-- Whether an event begins or ends a document type.
def Event.isDoctypeMark : Event → Bool
  | .doctypeStart .. | .doctypeEnd => true
  | _ => false

-- Whether an event is text, a comment or a border of a character data section.
def Event.isProse : Event → Bool
  | .text _ | .comment _ | .cdataStart | .cdataEnd => true
  | _ => false

namespace Assembly

-- The pending text with more text behind it.
def gathered (assembly : Assembly) (text : String) (location : Location) : PendingText :=
  let pending := assembly.pending.getD ⟨"", location⟩
  { pending with text := pending.text ++ text }

-- What an accepted event makes of an assembly. Tags are passed over only behind the content
-- element and inside a document type, and text, comments and sections only where nothing counts.
inductive Move (assembly : Assembly) (location : Location) : Event → Assembly → Prop
  | pass (event : Event) (hmark : event.isDoctypeMark = false)
      (htag : event.isTag = true → assembly.phase = .over ∨ assembly.inDoctype = true)
      (hprose : event.isProse = true → assembly.isIdle = true) :
      Move assembly location event assembly
  | bury (uri : Option String) (name : String) (attributes : List Attribute)
      (hphase : assembly.phase ≠ .over) (hdoctype : assembly.inDoctype = false)
      (hremoved : assembly.inRemoved = true) :
      Move assembly location (.elementStart uri name attributes)
        (assembly.push .removed assembly.compressing false)
  | start (uri : Option String) (name : String) (attributes : List Attribute) (next : Assembly)
      (hphase : assembly.phase ≠ .over) (hdoctype : assembly.inDoctype = false)
      (hremoved : assembly.inRemoved = false) (hplace : assembly.placementFault? uri name = none)
      (hopening : Opening assembly.settled uri name attributes
        ((Attribute.compression? attributes).getD assembly.settled.compressing) location next) :
      Move assembly location (.elementStart uri name attributes) next
  | finish (uri : Option String) (name : String) (next : Assembly)
      (hphase : assembly.phase ≠ .over) (hdoctype : assembly.inDoctype = false)
      (hclosing : Closing assembly.settled location next) :
      Move assembly location (.elementEnd uri name) next
  | gather (text : String) (pending : PendingText) (hidle : assembly.isIdle = false)
      (hbody : assembly.inBody = false) (hpending : pending = assembly.gathered text location) :
      Move assembly location (.text text) { assembly with pending := some pending }
  | comment (text : String) (hidle : assembly.isIdle = false) :
      Move assembly location (.comment text)
        (assembly.settled.emitOne (.comment (Text.trimmed text)) location)
  | cdataStart (hidle : assembly.isIdle = false) :
      Move assembly location .cdataStart { assembly.settled with pending := some ⟨"", location⟩ }
  | cdataEnd (pending : PendingText) (hidle : assembly.isIdle = false)
      (hpending : pending = assembly.pending.getD ⟨"", location⟩) :
      Move assembly location .cdataEnd
        { assembly.emitOne (.cdata pending.text) pending.location with pending := none }
  | doctypeStart (name : String) (publicId systemId : Option String) :
      Move assembly location (.doctypeStart name publicId systemId)
        (assembly.doctypeStart name publicId systemId location)
  | doctypeEnd : Move assembly location .doctypeEnd { assembly with inDoctype := false }
  | bind (label uri : String) (hidle : assembly.isIdle = false) :
      Move assembly location (.binding label uri)
        { assembly with bindings := assembly.bindings ++ #[⟨.binding uri label, location⟩] }

-- Where no tag counts, nothing else does.
theorem isIdle_of_unheard {assembly : Assembly}
    (h : assembly.phase = .over ∨ assembly.inDoctype = true) : assembly.isIdle = true := by
  rcases h with hover | hdoctype
  · simp [isIdle, hover]
  · simp [isIdle, hdoctype]

theorem isIdle_of_inRemoved {assembly : Assembly} (h : assembly.inRemoved = true) :
    assembly.isIdle = true := by
  simp [isIdle, h]

theorem inRemoved_of_inBody {assembly : Assembly} (hbody : assembly.inBody = true) :
    assembly.inRemoved = false := by
  unfold inBody at hbody
  unfold inRemoved
  split at hbody
  · rw [beq_iff_eq] at hbody
    simp [*]
  · cases hbody

theorem isIdle_eq_false {assembly : Assembly} (hphase : assembly.phase ≠ .over)
    (hdoctype : assembly.inDoctype = false) (hremoved : assembly.inRemoved = false) :
    assembly.isIdle = false := by
  simp [isIdle, hphase, hdoctype, hremoved]

-- Where nothing counts, only tags and marks of document types change anything.
theorem step_of_isIdle {assembly : Assembly} (hidle : assembly.isIdle = true) {event : Event}
    (line : Option Nat) (htag : event.isTag = false) (hmark : event.isDoctypeMark = false) :
    assembly.step ⟨line, event⟩ = .accepted assembly := by
  cases event with
  | documentStart | documentEnd => rfl
  | elementStart | elementEnd => cases htag
  | doctypeStart | doctypeEnd => cases hmark
  | text content => simp [step, react_characters, characters_eq, hidle]
  | comment content => simp [step, comment, hidle]
  | cdataStart => simp [step, cdataStart, hidle]
  | cdataEnd => simp [step, cdataEnd, hidle]
  | binding label uri => simp [step, binding, hidle]

-- Where nothing counts, all elements are alike.
theorem elementStart_of_isIdle {assembly : Assembly} (hidle : assembly.isIdle = true)
    (uri other : Option String) (name word : String) (attributes others : List Attribute)
    (location : Location) :
    assembly.elementStart uri name attributes location =
      assembly.elementStart other word others location := by
  simp only [isIdle, Bool.or_eq_true, beq_iff_eq] at hidle
  rcases hidle with (hdoctype | hover) | hremoved
  · simp [elementStart_eq, hdoctype]
  · simp [elementStart_eq, hover]
  · simp [elementStart_eq, hremoved]

section Counting

variable {assembly : Assembly} (hidle : assembly.isIdle = false) {uri : Option String}
  {name : String}

include hidle

theorem elementStart_of_misplaced {rule : PlacementRule}
    (hplace : assembly.placementFault? uri name = some rule) (attributes : List Attribute)
    (location : Location) :
    assembly.elementStart uri name attributes location =
      .refused (.misplaced rule location) assembly := by
  simp only [isIdle, Bool.or_eq_false_iff, beq_eq_false_iff_ne] at hidle
  simp [elementStart_eq, hidle, hplace]

theorem elementStart_of_placed (hplace : assembly.placementFault? uri name = none)
    (attributes : List Attribute) (location : Location) :
    assembly.elementStart uri name attributes location =
      match assembly.settled.openByRole uri name attributes location with
      | .ok next => .accepted next
      | .error fault => .refused fault assembly.settled := by
  simp only [isIdle, Bool.or_eq_false_iff, beq_eq_false_iff_ne] at hidle
  simp only [elementStart_eq, hidle.1.1, hidle.1.2, hidle.2, hplace]
  rfl

end Counting

theorem move_of_elementStart {assembly : Assembly} {uri : Option String} {name : String}
    {attributes : List Attribute} {location : Location}
    (h : (assembly.elementStart uri name attributes location).fault = none) :
    Move assembly location (.elementStart uri name attributes)
      (assembly.elementStart uri name attributes location).next := by
  rw [elementStart_eq] at h ⊢
  split
  · rename_i hover
    exact .pass _ rfl (fun _ => by simpa using hover) (by simp [Event.isProse])
  · rename_i hover
    rw [if_neg hover] at h
    simp only [Bool.or_eq_true, decide_eq_true_eq, not_or, Bool.not_eq_true] at hover
    split
    · rename_i hremoved
      exact .bury _ _ _ hover.1 hover.2 hremoved
    · rename_i hremoved
      rw [if_neg hremoved] at h
      cases hplace : assembly.placementFault? uri name with
      | some rule => rw [hplace] at h; cases h
      | none =>
          rw [hplace] at h
          dsimp only at h ⊢
          cases hopen : assembly.settled.openByRole uri name attributes location with
          | error fault => rw [hopen] at h; cases h
          | ok next =>
              exact .start _ _ _ next hover.1 hover.2 (by simpa using hremoved) hplace
                (opening_of_openByRole hopen)

theorem move_of_characters {assembly : Assembly} {text : String} {location : Location}
    (h : (assembly.characters text location).fault = none) :
    Move assembly location (.text text) (assembly.characters text location).next := by
  rw [characters_eq] at h ⊢
  split
  · rename_i hidle
    exact .pass _ rfl (by simp [Event.isTag]) fun _ => hidle
  · rename_i hidle
    rw [if_neg hidle] at h
    split
    · rename_i hbody
      rw [if_pos hbody] at h
      cases h
    · rename_i hbody
      exact .gather _ _ (by simpa using hidle) (by simpa using hbody) rfl

-- Every accepted event is one of the moves.
theorem move_of_step {assembly : Assembly} {placed : PlacedEvent}
    (h : (assembly.step placed).fault = none) :
    Move assembly (assembly.place placed.line) placed.event (assembly.step placed).next := by
  obtain ⟨line, event⟩ := placed
  cases event with
  | documentStart => exact .pass _ rfl (by simp [Event.isTag]) (by simp [Event.isProse])
  | documentEnd => exact .pass _ rfl (by simp [Event.isTag]) (by simp [Event.isProse])
  | elementStart uri name attributes => exact move_of_elementStart h
  | elementEnd uri name =>
      simp only [step, Reaction.accepted, elementEnd]
      split
      · rename_i hover
        exact .pass _ rfl (fun _ => by simpa using hover) (by simp [Event.isProse])
      · rename_i hover
        simp only [Bool.or_eq_true, decide_eq_true_eq, not_or, Bool.not_eq_true] at hover
        exact .finish uri name _ hover.1 hover.2 (closing_closeElement _ _)
  | text text => exact move_of_characters h
  | comment text =>
      simp only [step, Reaction.accepted, comment]
      split
      · rename_i hidle
        exact .pass _ rfl (by simp [Event.isTag]) fun _ => hidle
      · rename_i hidle
        exact .comment text (by simpa using hidle)
  | cdataStart =>
      simp only [step, Reaction.accepted, cdataStart]
      split
      · rename_i hidle
        exact .pass _ rfl (by simp [Event.isTag]) fun _ => hidle
      · rename_i hidle
        exact .cdataStart (by simpa using hidle)
  | cdataEnd =>
      simp only [step, Reaction.accepted, cdataEnd]
      split
      · rename_i hidle
        exact .pass _ rfl (by simp [Event.isTag]) fun _ => hidle
      · rename_i hidle
        exact .cdataEnd _ (by simpa using hidle) rfl
  | doctypeStart name publicId systemId => exact .doctypeStart name publicId systemId
  | doctypeEnd => exact .doctypeEnd
  | binding label uri =>
      simp only [step, Reaction.accepted, binding]
      split
      · exact .pass _ rfl (by simp [Event.isTag]) (by simp [Event.isProse])
      · rename_i hshown
        simp only [Bool.or_eq_true, not_or, Bool.not_eq_true] at hshown
        exact .bind label uri hshown.1

theorem feed_of_accepted {assembly next : Assembly} {placed : PlacedEvent}
    (h : assembly.step placed = .accepted next) (rest : List PlacedEvent) :
    assembly.feed (placed :: rest) = next.feed rest := by
  simp [feed, h, Reaction.accepted]

theorem feed_of_refused {assembly next : Assembly} {placed : PlacedEvent} {fault : Fault}
    (h : assembly.step placed = .refused fault next) (rest : List PlacedEvent) :
    assembly.feed (placed :: rest) = .error fault := by
  simp [feed, h, Reaction.refused]

theorem feed_of_fault {assembly : Assembly} {placed : PlacedEvent} {fault : Fault}
    (hfault : (assembly.step placed).fault = some fault) (rest : List PlacedEvent) :
    assembly.feed (placed :: rest) = .error fault := by
  rw [feed, hfault]

theorem feed_of_no_fault {assembly : Assembly} {placed : PlacedEvent}
    (hfault : (assembly.step placed).fault = none) (rest : List PlacedEvent) :
    assembly.feed (placed :: rest) = (assembly.step placed).next.feed rest := by
  rw [feed, hfault]

-- A run that is accepted begins with an event that is.
theorem accepted_of_feed {assembly final : Assembly} {placed : PlacedEvent}
    {rest : List PlacedEvent} (h : assembly.feed (placed :: rest) = .ok final) :
    (assembly.step placed).fault = none ∧ (assembly.step placed).next.feed rest = .ok final := by
  cases hfault : (assembly.step placed).fault with
  | some fault => rw [feed_of_fault hfault] at h; cases h
  | none =>
      rw [feed_of_no_fault hfault] at h
      exact ⟨rfl, h⟩

theorem feed_append (assembly : Assembly) (first second : List PlacedEvent) :
    assembly.feed (first ++ second) = (assembly.feed first).bind fun next => next.feed second := by
  induction first generalizing assembly with
  | nil => rfl
  | cons placed rest ih =>
      simp only [List.cons_append, feed]
      cases (assembly.step placed).fault with
      | some fault => rfl
      | none => exact ih _

-- What holds of a run's beginning and passes through every move holds of its end. The motive
-- may look at the events that are still to come.
theorem feed_induction {motive : Assembly → List PlacedEvent → Prop} {assembly final : Assembly}
    {events : List PlacedEvent} (h : assembly.feed events = .ok final)
    (hstart : motive assembly events)
    (hmove : ∀ (before : Assembly) (placed : PlacedEvent) (rest : List PlacedEvent),
      motive before (placed :: rest) →
      Move before (before.place placed.line) placed.event (before.step placed).next →
      motive (before.step placed).next rest) :
    motive final [] := by
  induction events generalizing assembly with
  | nil => cases h; exact hstart
  | cons placed rest ih =>
      obtain ⟨hfault, hrest⟩ := accepted_of_feed h
      exact ih hrest (hmove assembly placed rest hstart (move_of_step hfault))

end Assembly

end TemplateMarkup
