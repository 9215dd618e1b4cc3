import TemplateMarkup.Profile
import TemplateMarkup.Proofs.Assembly.Move

namespace TemplateMarkup

namespace Event

-- The number of open elements behind an event. An end without a start closes nothing.
def openAfter (opened : Nat) : Event → Nat
  | .elementStart .. => opened + 1
  | .elementEnd .. => opened - 1
  | _ => opened

theorem openAfter_of_not_isTag {event : Event} (h : event.isTag = false) (opened : Nat) :
    event.openAfter opened = opened := by
  cases event <;> first | rfl | cases h

end Event

-- The number of elements that are open behind some events, with `opened` open before them.
def openElements (opened : Nat) : List PlacedEvent → Nat
  | [] => opened
  | placed :: rest => openElements (placed.event.openAfter opened) rest

-- Whether the end of every element has come.
def elementsClosed (events : List PlacedEvent) : Bool :=
  openElements 0 events == 0

-- Whether the end of every document type comes directly behind its start. The flag tells whether
-- a start has just been seen.
def doctypesClosed (inDoctype : Bool) : List PlacedEvent → Bool
  | [] => !inDoctype
  | placed :: rest =>
    match placed.event with
    | .doctypeStart .. => !inDoctype && doctypesClosed true rest
    | .doctypeEnd => doctypesClosed false rest
    | _ => !inDoctype && doctypesClosed false rest

theorem doctypesClosed_of_not_isDoctypeMark {inDoctype : Bool} {placed : PlacedEvent}
    {rest : List PlacedEvent} (h : doctypesClosed inDoctype (placed :: rest) = true)
    (hmark : placed.event.isDoctypeMark = false) :
    inDoctype = false ∧ doctypesClosed inDoctype rest = true := by
  obtain ⟨line, event⟩ := placed
  cases inDoctype <;> cases event <;> simp_all [doctypesClosed, Event.isDoctypeMark]

theorem EventStream.assemble_ok {events : List PlacedEvent} {resource : String}
    {compress : Bool} {template : Template}
    (h : (EventStream.mk events none).assemble resource compress = .ok template) :
    ∃ final, (Assembly.start resource compress).feed events = .ok final ∧
      template = final.template := by
  simp only [EventStream.assemble] at h
  cases hfeed : (Assembly.start resource compress).feed events with
  | error fault => rw [hfeed] at h; cases h
  | ok final => rw [hfeed] at h; cases h; exact ⟨final, rfl, rfl⟩

theorem EventStream.exists_template {stream : EventStream} {resource : String} {compress : Bool}
    (h : (stream.assemble resource compress).toBool = true) :
    ∃ template, stream.assemble resource compress = .ok template := by
  cases hresult : stream.assemble resource compress with
  | error fault => rw [hresult] at h; cases h
  | ok template => exact ⟨template, rfl⟩

namespace Assembly

-- As long as the events before the content element's end count, the open elements of an assembly
-- are those that the rest of the events will close.
def Awaits (assembly : Assembly) (rest : List PlacedEvent) : Prop :=
  doctypesClosed assembly.inDoctype rest = true ∧
    (assembly.phase = .over ∨ openElements assembly.scopes.length rest = 0)

theorem Opening.scopes_eq {assembly next : Assembly} {uri : Option String} {name : String}
    {attributes : List Attribute} {compress : Bool} {location : Location}
    (h : Opening assembly uri name attributes compress location next) :
    ∃ scope, next.scopes = scope :: assembly.scopes := by
  cases h <;> exact ⟨_, rfl⟩

theorem Opening.inDoctype_eq {assembly next : Assembly} {uri : Option String} {name : String}
    {attributes : List Attribute} {compress : Bool} {location : Location}
    (h : Opening assembly uri name attributes compress location next) :
    next.inDoctype = assembly.inDoctype := by
  cases h <;> rfl

theorem Closing.scopes_eq {assembly next : Assembly} {location : Location}
    (h : Closing assembly location next) : next.scopes = assembly.scopes.tail := by
  cases h with
  | stray hscopes => simp [hscopes]
  | element compress isComponent outer hscopes => simp [hscopes, emitOne, emit]
  | content compress isComponent outer hscopes => simp [hscopes]
  | region scope outer id saved hscopes hkind => simp [hscopes, setOverride]
  | bare scope outer hscopes hkind => simp [hscopes]

theorem Closing.inDoctype_eq {assembly next : Assembly} {location : Location}
    (h : Closing assembly location next) : next.inDoctype = assembly.inDoctype := by
  cases h <;> rfl

-- Document types that are closed at once stay so.
theorem doctypesClosed_of_move {assembly next : Assembly} {placed : PlacedEvent}
    {rest : List PlacedEvent} (h : doctypesClosed assembly.inDoctype (placed :: rest) = true)
    (hmove : Move assembly (assembly.place placed.line) placed.event next) :
    doctypesClosed next.inDoctype rest = true := by
  obtain ⟨line, event⟩ := placed
  have hsame : event.isDoctypeMark = false → next.inDoctype = assembly.inDoctype →
      doctypesClosed next.inDoctype rest = true := fun hmark he =>
    he ▸ (doctypesClosed_of_not_isDoctypeMark h hmark).2
  cases hmove with
  | pass event hmark htag hprose => exact hsame hmark rfl
  | start uri name attributes next hphase hdoctype hremoved hplace hopening =>
      exact hsame rfl (hopening.inDoctype_eq.trans (settled_inDoctype _))
  | finish uri name next hphase hdoctype hclosing =>
      exact hsame rfl (hclosing.inDoctype_eq.trans (settled_inDoctype _))
  | comment | cdataStart => exact hsame rfl (settled_inDoctype _)
  | bury | gather | cdataEnd | bind => exact hsame rfl rfl
  | doctypeStart name publicId systemId =>
      simp only [doctypesClosed, Bool.and_eq_true] at h
      exact h.2
  | doctypeEnd => exact h

theorem awaits_of_move {assembly next : Assembly} {placed : PlacedEvent}
    {rest : List PlacedEvent} (h : assembly.Awaits (placed :: rest))
    (hmove : Move assembly (assembly.place placed.line) placed.event next) : next.Awaits rest := by
  obtain ⟨hdoctypes, hopen⟩ := h
  refine ⟨doctypesClosed_of_move hdoctypes hmove, ?_⟩
  obtain ⟨line, event⟩ := placed
  cases hmove with
  | pass event hmark htag hprose =>
      cases hevent : event.isTag with
      | false => rwa [openElements, Event.openAfter_of_not_isTag hevent] at hopen
      | true =>
          have hin := (doctypesClosed_of_not_isDoctypeMark hdoctypes hmark).1
          exact .inl ((htag hevent).resolve_right (by simp [hin]))
  | bury uri name attributes hphase hdoctype hremoved => exact .inr (hopen.resolve_left hphase)
  | start uri name attributes next hphase hdoctype hremoved hplace hopening =>
      obtain ⟨scope, hscopes⟩ := hopening.scopes_eq
      have ho := hopen.resolve_left hphase
      exact .inr (by simpa [openElements, Event.openAfter, hscopes] using ho)
  | finish uri name next hphase hdoctype hclosing =>
      have ho := hopen.resolve_left hphase
      exact .inr (by simpa [openElements, Event.openAfter, hclosing.scopes_eq] using ho)
  | comment | cdataStart =>
      rw [← settled_phase assembly, ← settled_scopes assembly] at hopen
      exact hopen
  | gather | cdataEnd | doctypeStart | doctypeEnd | bind => exact hopen

theorem awaits_of_closed {resource : String} {compress : Bool} {events : List PlacedEvent}
    (hclosed : elementsClosed events = true) (hdoctypes : doctypesClosed false events = true) :
    (start resource compress).Awaits events :=
  ⟨hdoctypes, .inr (beq_iff_eq.mp hclosed)⟩

-- With all elements and document types closed, a run ends behind the content element or with no
-- element open.
theorem feed_closed {resource : String} {compress : Bool} {events : List PlacedEvent}
    {final : Assembly} (h : (start resource compress).feed events = .ok final)
    (hclosed : elementsClosed events = true) (hdoctypes : doctypesClosed false events = true) :
    final.phase = .over ∨ final.scopes = [] := by
  have ha : final.Awaits [] :=
    feed_induction h (awaits_of_closed hclosed hdoctypes) fun _ _ _ => awaits_of_move
  exact ha.2.imp_right List.length_eq_zero_iff.mp

end Assembly

end TemplateMarkup
