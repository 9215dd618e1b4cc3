import TemplateMarkup.Proofs.Assembly.CharacterData
import TemplateMarkup.Proofs.Tree.Reading

namespace TemplateMarkup

open Reading

namespace Assembly

-- An assembly from which a reading with this setting and these tables goes on.
structure Fits (assembly : Assembly) (setting : Setting) (tables : Tables) : Prop where
  compress : assembly.compressing = setting.compress
  isComponent : assembly.inComponent = setting.isComponent
  inExtensionPoint : assembly.inExtensionPoint = setting.inExtensionPoint
  ids : assembly.ids = tables.ids
  overrides : assembly.overrides = tables.overrides
  phase : assembly.phase = .outside
  inDoctype : assembly.inDoctype = false
  inRemoved : assembly.inRemoved = false
  inBody : assembly.inBody = false
  isExtension : assembly.isExtension = false

-- An assembly behind nodes that were read to some tokens and tables. All that the nodes open is
-- closed again, so nothing else is left of them.
def delivered (assembly : Assembly) (tokens : Array Token) (tables : Tables) : Assembly :=
  { assembly with
    tokens := assembly.tokens ++ tokens
    ids := tables.ids
    overrides := tables.overrides
    pending := none }

-- An assembly behind the declarations of an element that it has yet to open.
def declaring (assembly : Assembly) (bindings : Array Token) : Assembly :=
  { assembly with bindings := assembly.bindings ++ bindings }

-- An assembly in which some text waits.
def gathering (assembly : Assembly) (pending : PendingText) : Assembly :=
  { assembly with pending := some pending }

theorem delivered_resource (assembly : Assembly) (tokens : Array Token) (found : Tables) :
    (assembly.delivered tokens found).resource = assembly.resource := rfl

theorem delivered_delivered (assembly : Assembly) (first second : Array Token)
    (between tables : Tables) :
    (assembly.delivered first between).delivered second tables =
      assembly.delivered (first ++ second) tables := by
  simp only [delivered, Array.append_assoc]

variable {assembly : Assembly} {setting : Setting} {tables : Tables}

theorem Fits.isIdle (h : assembly.Fits setting tables) : assembly.isIdle = false := by
  simp [Assembly.isIdle, h.inDoctype, h.phase, h.inRemoved]

theorem Fits.delivered (h : assembly.Fits setting tables) (tokens : Array Token)
    (found : Tables) : (assembly.delivered tokens found).Fits setting found :=
  { h with ids := rfl, overrides := rfl }

theorem Fits.gathering (h : assembly.Fits setting tables) (pending : PendingText) :
    (assembly.gathering pending).Fits setting tables :=
  { h with }

theorem Fits.phase_ne_over (h : assembly.Fits setting tables) : assembly.phase ≠ .over := by
  rw [h.phase]
  decide

theorem Fits.settled_eq (h : assembly.Fits setting tables) :
    assembly.settled = assembly.delivered assembly.settlement tables := by
  rw [Assembly.settled_eq, Assembly.delivered, ← h.ids, ← h.overrides]

theorem Fits.settled (h : assembly.Fits setting tables) :
    assembly.settled.Fits setting tables := by
  rw [h.settled_eq]
  exact h.delivered _ _

theorem declaring_declaring (assembly : Assembly) (first second : Array Token) :
    (assembly.declaring first).declaring second = assembly.declaring (first ++ second) := by
  simp only [declaring, Array.append_assoc]

theorem feed_declarations (hidle : assembly.isIdle = false)
    (declarations : List LabelDeclaration) (rest : List PlacedEvent) :
    assembly.feed (declarations.map (·.placed) ++ rest) =
      (assembly.declaring
        (declarations.filterMap (·.token? assembly.resource)).toArray).feed rest := by
  induction declarations generalizing assembly with
  | nil => simp [declaring]
  | cons declaration others ih =>
      have hstep : assembly.step declaration.placed =
          .accepted (assembly.declaring (declaration.token? assembly.resource).toArray) := by
        simp only [step, LabelDeclaration.placed, binding, LabelDeclaration.token?, hidle,
          Bool.false_or]
        split <;> simp [declaring, place]
      have hidle' : (assembly.declaring (declaration.token? assembly.resource).toArray).isIdle =
          false := hidle
      rw [List.map_cons, List.cons_append, feed_of_accepted hstep, ih hidle',
        declaring_declaring, List.filterMap_cons]
      cases declaration.token? assembly.resource <;> simp [declaring]

theorem feed_declarations_idle (hidle : assembly.isIdle = true)
    (declarations : List LabelDeclaration) (rest : List PlacedEvent) :
    assembly.feed (declarations.map (·.placed) ++ rest) = assembly.feed rest := by
  induction declarations with
  | nil => rfl
  | cons declaration others ih =>
      have hstep : assembly.step declaration.placed = .accepted assembly :=
        step_of_isIdle hidle _ rfl rfl
      rw [List.map_cons, List.cons_append, feed_of_accepted hstep, ih]

-- The end of an element settles the text in front of it, so the nodes inside need to be known up
-- to their last text only.
theorem feed_enclosed {α : Type} {found : Except Fault α} {inside outside : α → Assembly}
    {events : List PlacedEvent} (h : (assembly.feed events).map settled = found.map inside)
    (hphase : ∀ a, (inside a).phase ≠ .over) (hdoctype : ∀ a, (inside a).inDoctype = false)
    {line : Option Nat}
    (hclose : ∀ a, (inside a).closeElement ⟨(inside a).resource, line⟩ = outside a)
    (uri : Option String) (name : String) (rest : List PlacedEvent) :
    assembly.feed (events ++ ⟨line, .elementEnd uri name⟩ :: rest) =
      found.bind fun a => (outside a).feed rest := by
  rw [feed_append]
  cases hfeed : assembly.feed events with
  | error fault =>
      rw [hfeed] at h
      cases found with
      | error fault' => cases h; rfl
      | ok a => cases h
  | ok last =>
      rw [hfeed] at h
      cases found with
      | error fault => cases h
      | ok a =>
          have hlast : last.settled = inside a := by simpa [Except.map] using h
          have hp : last.phase ≠ .over := by simpa [← hlast] using hphase a
          have hd : last.inDoctype = false := by simpa [← hlast] using hdoctype a
          have hend : last.step ⟨line, .elementEnd uri name⟩ = .accepted (outside a) := by
            simp [step, elementEnd, hp, hd, ← hclose, ← hlast, place]
          exact feed_of_accepted hend rest

-- The nodes inside a removed element leave nothing.
theorem feed_removed (forest : Forest) (hphase : assembly.phase ≠ .over)
    (hdoctype : assembly.inDoctype = false) (hremoved : assembly.inRemoved = true)
    (hpending : assembly.pending = none) : assembly.feed forest.events = .ok assembly := by
  induction forest generalizing assembly with
  | nil => rfl
  | element tag children endLine rest ihc ihr =>
      have hstart : assembly.step ⟨tag.line, .elementStart tag.uri tag.name tag.attributes⟩ =
          .accepted (assembly.push .removed assembly.compressing false) := by
        simp [step, react_elementStart, elementStart_eq, hphase, hdoctype, hremoved]
      have hchildren : (assembly.push .removed assembly.compressing false).feed children.events =
          .ok (assembly.push .removed assembly.compressing false) :=
        ihc hphase hdoctype rfl hpending
      have hinside : ((assembly.push .removed assembly.compressing false).feed
          children.events).map settled =
            (Except.ok ()).map fun _ => assembly.push .removed assembly.compressing false := by
        rw [hchildren]
        exact congrArg Except.ok (settled_of_none hpending)
      rw [Forest.events, feed_declarations_idle (isIdle_of_inRemoved hremoved),
        feed_of_accepted hstart,
        feed_enclosed hinside (fun _ => hphase) (fun _ => hdoctype) fun _ => rfl]
      exact ihr hphase hdoctype hremoved hpending
  | text line content rest ih =>
      have hidle := isIdle_of_inRemoved hremoved
      rw [Forest.events, feed_of_accepted (step_of_isIdle hidle _ rfl rfl)]
      exact ih hphase hdoctype hremoved hpending
  | comment line content rest ih =>
      have hidle := isIdle_of_inRemoved hremoved
      rw [Forest.events, feed_of_accepted (step_of_isIdle hidle _ rfl rfl)]
      exact ih hphase hdoctype hremoved hpending
  | cdata startLine textLine endLine content rest ih =>
      have hidle := isIdle_of_inRemoved hremoved
      rw [Forest.events, feed_of_accepted (step_of_isIdle hidle _ rfl rfl),
        feed_of_accepted (step_of_isIdle hidle _ rfl rfl),
        feed_of_accepted (step_of_isIdle hidle _ rfl rfl)]
      exact ih hphase hdoctype hremoved hpending

theorem isIdle_of_inBody (hphase : assembly.phase ≠ .over) (hdoctype : assembly.inDoctype = false)
    (hbody : assembly.inBody = true) : assembly.isIdle = false := by
  simp [isIdle, hphase, hdoctype, inRemoved_of_inBody hbody]

theorem step_start_inBody (assembly : Assembly) (tag : StartTag)
    (hphase : assembly.phase ≠ .over) (hdoctype : assembly.inDoctype = false)
    (hbody : assembly.inBody = true) :
    assembly.step ⟨tag.line, .elementStart tag.uri tag.name tag.attributes⟩ =
      .refused (.misplaced .contentInsideBody (tag.location assembly.resource)) assembly := by
  simp [step, react_elementStart, elementStart_eq, placementFault?, hphase, hdoctype, hbody,
    inRemoved_of_inBody hbody, place, StartTag.location]

-- A body admits comments only, and the first node that is none is its fault.
theorem feed_body (forest : Forest) (hphase : assembly.phase ≠ .over)
    (hdoctype : assembly.inDoctype = false) (hbody : assembly.inBody = true)
    (hpending : assembly.pending = none) :
    assembly.feed forest.events =
      (forest.readBody assembly.resource).map assembly.emit := by
  induction forest generalizing assembly with
  | nil => simp [Forest.events, Forest.readBody, feed, emit, pure, Except.pure, Except.map]
  | element tag children endLine rest ihc ihr =>
      rw [Forest.events, feed_declarations (isIdle_of_inBody hphase hdoctype hbody)]
      exact feed_of_refused (step_start_inBody (assembly.declaring _) tag hphase hdoctype hbody) _
  | text line content rest ih =>
      have hidle := isIdle_of_inBody hphase hdoctype hbody
      rw [Forest.events, feed_of_refused (step_text_of_inBody hidle hbody line content)]
      rfl
  | comment line content rest ih =>
      have hidle := isIdle_of_inBody hphase hdoctype hbody
      have hstep : assembly.step ⟨line, .comment content⟩ = .accepted
          (assembly.emit #[⟨.comment (Text.trimmed content), ⟨assembly.resource, line⟩⟩]) := by
        simp [step, comment, hidle, settled_of_none hpending, emitOne, place]
      have hrest : (assembly.emit
          #[⟨.comment (Text.trimmed content), ⟨assembly.resource, line⟩⟩]).feed rest.events =
            (rest.readBody assembly.resource).map (assembly.emit
              #[⟨.comment (Text.trimmed content), ⟨assembly.resource, line⟩⟩]).emit :=
        ih hphase hdoctype hbody hpending
      rw [Forest.events, feed_of_accepted hstep, hrest]
      simp only [Forest.readBody, emit]
      cases rest.readBody assembly.resource with
      | error fault => rfl
      | ok tokens => simp [bind, Except.bind, pure, Except.pure, Except.map, emit]
  | cdata startLine textLine endLine content rest ih =>
      have hidle := isIdle_of_inBody hphase hdoctype hbody
      have hstart : assembly.step ⟨startLine, .cdataStart⟩ =
          .accepted (assembly.gathering ⟨"", ⟨assembly.resource, startLine⟩⟩) := by
        simp [step, cdataStart, hidle, settled_of_none hpending, place, gathering]
      have hinside : (assembly.gathering ⟨"", ⟨assembly.resource, startLine⟩⟩).isIdle = false :=
        hidle
      rw [Forest.events, feed_of_accepted hstart]
      exact feed_of_refused (step_text_of_inBody hinside hbody textLine content) _

end Assembly

end TemplateMarkup
