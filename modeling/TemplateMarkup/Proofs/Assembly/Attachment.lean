import TemplateMarkup.Proofs.Assembly.Order
import TemplateMarkup.Proofs.Assembly.Refusal
import TemplateMarkup.Proofs.Token.Attachment
import TemplateMarkup.Proofs.Tree.Forest

namespace TemplateMarkup

open TracedToken (Attached FirstFrom InTurn IsQuiet StemsFrom Traces Waits)

theorem Component.isQuiet_passed {componentType : Option String} {component : Component}
    {attributes : List Attribute} {location : Location}
    (hread : (Component.ofType componentType).readAll location attributes = .ok component) :
    IsQuiet component.passed := by
  intro token hm
  rcases Component.mem_passed hread hm with hm | ⟨uri, name, value, rfl⟩
  · exact absurd hm (Array.not_mem_empty _)
  · exact ⟨rfl, rfl⟩

theorem Component.isStart_startForm (component : Component) (uri element : Option String) :
    (component.startForm uri element).isStart = true := by
  unfold Component.startForm
  split <;> rfl

namespace Assembly

-- Whether an event starts an element of the output.
def startsOutput (assembly : Assembly) (placed : PlacedEvent) : Bool :=
  match placed.event with
  | .elementStart uri name _ =>
    !assembly.isIdle && ((ElementRole.ofName uri name).output? name).isSome
  | _ => false

-- All sequences of an assembly have a property: the active one, those that open regions keep, and
-- the overrides.
structure Throughout (assembly : Assembly) (P : Array Token → Prop) : Prop where
  active : P assembly.tokens
  saved : ∀ scope ∈ assembly.scopes, ∀ id tokens, scope.kind.region? = some (id, tokens) → P tokens
  overrides : ∀ table, assembly.overrides = some table → ∀ entry ∈ table.toList, P entry.2

-- A property of the empty sequence that tokens other than bindings and starts do not disturb.
structure IgnoresQuiet (P : Array Token → Prop) : Prop where
  empty : P #[]
  quiet : ∀ {tokens more}, P tokens → IsQuiet more → P (tokens ++ more)

section Sequences

variable {assembly next : Assembly} {P Q : Array Token → Prop} {location : Location}

theorem Throughout.imp (h : assembly.Throughout P) (himp : ∀ tokens, P tokens → Q tokens) :
    assembly.Throughout Q where
  active := himp _ h.active
  saved scope hm id tokens hregion := himp tokens (h.saved scope hm id tokens hregion)
  overrides table htable entry hm := himp entry.2 (h.overrides table htable entry hm)

-- Only the active sequence grows, and no region is opened.
theorem Throughout.grow (h : assembly.Throughout P) (htokens : P next.tokens)
    (hscopes : ∀ scope ∈ next.scopes, scope ∈ assembly.scopes ∨ scope.kind.region? = none)
    (hoverrides : next.overrides = assembly.overrides) : next.Throughout P where
  active := htokens
  saved scope hm id tokens hregion := by
    rcases hscopes scope hm with hm | hnone
    · exact h.saved scope hm id tokens hregion
    · rw [hnone] at hregion
      cases hregion
  overrides := hoverrides ▸ h.overrides

theorem Throughout.setOverride (h : assembly.Throughout P) {id : String} {tokens : Array Token}
    (htokens : P tokens) : (assembly.setOverride id tokens).Throughout P where
  active := h.active
  saved := h.saved
  overrides := forall_override_setOverride (P := P) h.overrides htokens

-- A region keeps one sequence and starts another one.
theorem Throughout.openRegion (h : assembly.Throughout P) (hempty : P #[]) {id : String}
    {saved : Array Token} {kind : ScopeKind} {compress : Bool}
    (hkind : kind.region? = some (id, saved)) (hsaved : P saved) :
    ({ assembly.setOverride id #[] with tokens := #[] }.pushBare kind compress).Throughout P where
  active := hempty
  saved scope hm other tokens hregion := by
    rcases List.mem_cons.mp hm with rfl | hm
    · rw [hkind] at hregion
      cases hregion
      exact hsaved
    · exact h.saved scope hm other tokens hregion
  overrides := (h.setOverride hempty).overrides

theorem isQuiet_singleton {token : Token} (hbinding : token.isBinding = false)
    (hstart : token.form.isStart = false) : IsQuiet #[token] := fun other hm => by
  rw [Array.mem_singleton.mp hm]
  exact ⟨hbinding, hstart⟩

theorem isQuiet_settlement (assembly : Assembly) : IsQuiet assembly.settlement := by
  intro token hm
  obtain ⟨pending, fragment, -, rfl⟩ := mem_settlement hm
  cases fragment <;> exact ⟨rfl, rfl⟩

theorem Throughout.settled (h : assembly.Throughout P) (hP : IgnoresQuiet P) :
    assembly.settled.Throughout P := by
  refine h.grow ?_ (fun scope hm => .inl (settled_scopes assembly ▸ hm)) (settled_overrides _)
  rw [settled_tokens]
  exact hP.quiet h.active (isQuiet_settlement assembly)

theorem Throughout.opening {uri : Option String} {name : String} {attributes : List Attribute}
    {compress : Bool} (h : assembly.Throughout P) (hP : IgnoresQuiet P)
    (hrole : (ElementRole.ofName uri name).output? name = none)
    (ho : Opening assembly uri name attributes compress location next) : next.Throughout P := by
  cases ho with
  | output element componentType component ids houtput hread hids =>
      rw [hrole] at houtput
      cases houtput
  | remove | extend | container => exact h.grow h.active (region?_of_push rfl) rfl
  | content => exact h.grow hP.empty (region?_of_push rfl) rfl
  | extensionPoint id hname hid hnested =>
      exact h.openRegion hP.empty rfl (hP.quiet h.active (isQuiet_singleton rfl rfl))
  | replace id hname hid hextension hinside hfirst => exact h.openRegion hP.empty rfl h.active
  | body | block | parameter | blockParameter =>
      exact h.grow (hP.quiet h.active (isQuiet_singleton rfl rfl)) (region?_of_push rfl) rfl

theorem Throughout.closing (h : assembly.Throughout P) (hP : IgnoresQuiet P)
    (hc : Closing assembly location next) : next.Throughout P := by
  have hinner : ∀ {scope : Scope} {outer : List Scope}, assembly.scopes = scope :: outer →
      ∀ other ∈ outer, other ∈ assembly.scopes ∨ other.kind.region? = none := by
    intro scope outer hscopes other hm
    exact .inl (by rw [hscopes]; exact List.mem_cons_of_mem _ hm)
  cases hc with
  | stray hscopes => exact h
  | element compress isComponent outer hscopes =>
      exact h.grow (hP.quiet h.active (isQuiet_singleton rfl rfl)) (hinner hscopes) rfl
  | content compress isComponent outer hscopes => exact h.grow h.active (hinner hscopes) rfl
  | region scope outer id saved hscopes hkind =>
      have hsaved := h.saved scope (by rw [hscopes]; exact List.mem_cons_self) id saved hkind
      have hback : Throughout { assembly with scopes := outer, tokens := saved } P :=
        h.grow hsaved (hinner hscopes) rfl
      exact hback.setOverride h.active
  | bare scope outer hscopes hkind => exact h.grow h.active (hinner hscopes) rfl

theorem Throughout.move {placed : PlacedEvent} (h : assembly.Throughout P) (hP : IgnoresQuiet P)
    (hstart : assembly.startsOutput placed = false)
    (hmove : Move assembly (assembly.place placed.line) placed.event next) :
    next.Throughout P := by
  obtain ⟨line, event⟩ := placed
  have hsame : ∀ scope ∈ assembly.scopes, scope ∈ assembly.scopes ∨ scope.kind.region? = none :=
    fun _ hm => .inl hm
  have hsettled := h.settled hP
  cases hmove with
  | pass event hmark htag hprose => exact h
  | bury uri name attributes hphase hdoctype hremoved =>
      exact h.grow h.active (region?_of_push rfl) rfl
  | start uri name attributes next hphase hdoctype hremoved hplace hopening =>
      have hidle := isIdle_eq_false hphase hdoctype hremoved
      have hrole : (ElementRole.ofName uri name).output? name = none := by
        simpa [startsOutput, hidle] using hstart
      exact hsettled.opening hP hrole hopening
  | finish uri name next hphase hdoctype hclosing => exact hsettled.closing hP hclosing
  | gather text pending hidle hbody hpending => exact h.grow h.active hsame rfl
  | comment text hidle =>
      exact hsettled.grow (hP.quiet hsettled.active (isQuiet_singleton rfl rfl))
        (fun _ hm => .inl hm) rfl
  | cdataStart hidle => exact hsettled.grow hsettled.active (fun _ hm => .inl hm) rfl
  | cdataEnd pending hidle hpending =>
      exact h.grow (hP.quiet h.active (isQuiet_singleton rfl rfl)) hsame rfl
  | doctypeStart name publicId systemId =>
      exact h.grow (hP.quiet h.active (isQuiet_singleton rfl rfl)) hsame rfl
  | doctypeEnd => exact h.grow h.active hsame rfl
  | bind label uri hidle => exact h.grow h.active hsame rfl

-- What holds of all sequences holds of those of the template.
theorem Throughout.template (h : assembly.Throughout P) (hP : IgnoresQuiet P) :
    ∀ tokens ∈ assembly.template.sequences, P tokens := by
  have hsettled := h.settled hP
  intro tokens hm
  rcases List.mem_cons.mp hm with rfl | hm
  · exact hsettled.active
  · obtain ⟨entry, hentry, rfl⟩ := List.mem_map.mp hm
    change entry ∈ (assembly.settled.overrides.getD IdTable.empty).toList at hentry
    cases htable : assembly.settled.overrides with
    | none =>
        rw [htable] at hentry
        cases hentry
    | some table =>
        rw [htable] at hentry
        exact hsettled.overrides table htable entry hentry

end Sequences

section Run

variable {assembly next : Assembly} {location : Location} {events : List PlacedEvent}
  {starts : Nat → Bool} {k : Nat}

-- The start of an output element pushes the bindings that wait, and these are all gone then.
theorem Move.of_startsOutput {placed : PlacedEvent} (hstart : assembly.startsOutput placed = true)
    (hmove : Move assembly (assembly.place placed.line) placed.event next) :
    ∃ uri name attributes start passed,
      placed.event = .elementStart uri name attributes ∧ start.form.isStart = true ∧
      start.location.line = placed.line ∧ IsQuiet passed ∧
      next.tokens = assembly.settled.tokens ++ (#[start] ++ assembly.bindings) ++ passed ∧
      next.bindings = #[] ∧ next.overrides = assembly.overrides ∧
      ∀ scope ∈ next.scopes, scope ∈ assembly.scopes ∨ scope.kind.region? = none := by
  obtain ⟨line, event⟩ := placed
  cases event with
  | elementStart uri name attributes =>
      simp only [startsOutput, Bool.and_eq_true, Bool.not_eq_true'] at hstart
      cases hmove with
      | pass event hmark htag hprose =>
          rw [isIdle_of_unheard (htag rfl)] at hstart
          cases hstart.1
      | bury uri name attributes hphase hdoctype hremoved =>
          rw [isIdle_of_inRemoved hremoved] at hstart
          cases hstart.1
      | start uri name attributes next hphase hdoctype hremoved hplace hopening =>
          cases hopening with
          | output element componentType component ids hrole hread hids =>
              refine ⟨uri, name, attributes, ⟨component.startForm uri element, assembly.place line⟩,
                component.passed, rfl, component.isStart_startForm uri element, rfl,
                Component.isQuiet_passed hread, ?_, rfl, settled_overrides _, ?_⟩
              · simp only [settled_bindings, startTokens, Array.append_assoc]
              · rw [settled_scopes]
                exact region?_of_push rfl
          | _ => simp_all [ElementRole.output?]
  | _ => cases hstart

-- No other event changes the bindings that wait, unless it is one.
theorem Move.bindings_eq {placed : PlacedEvent} (hstart : assembly.startsOutput placed = false)
    (hmove : Move assembly (assembly.place placed.line) placed.event next) :
    next.bindings = assembly.bindings ∨ ∃ label uri, placed.event = .binding label uri ∧
      next.bindings = assembly.bindings ++
        #[⟨.binding uri label, assembly.place placed.line⟩] := by
  obtain ⟨line, event⟩ := placed
  cases hmove with
  | start uri name attributes next hphase hdoctype hremoved hplace hopening =>
      have hidle := isIdle_eq_false hphase hdoctype hremoved
      cases hopening with
      | output element componentType component ids hrole hread hids =>
          simp [startsOutput, hidle, hrole] at hstart
      | _ => exact .inl (settled_bindings assembly)
  | finish uri name next hphase hdoctype hclosing =>
      cases hclosing <;> exact .inl (settled_bindings assembly)
  | comment | cdataStart => exact .inl (settled_bindings assembly)
  | bind label uri hidle => exact .inr ⟨label, uri, rfl, rfl⟩
  | _ => exact .inl rfl

-- In front of position `k` all bindings that wait and all sequences are traced to events.
structure Attaching (assembly : Assembly) (events : List PlacedEvent) (starts : Nat → Bool)
    (k : Nat) : Prop where
  waits : ∃ waiting, Waits events starts k assembly.bindings waiting
  sequences : assembly.Throughout fun tokens => ∃ traced, Traces events starts k tokens traced

theorem ignoresQuiet_traces :
    IgnoresQuiet fun tokens => ∃ traced, Traces events starts k tokens traced where
  empty := ⟨[], TracedToken.traces_nil⟩
  quiet h hmore := h.elim fun _ htraced => ⟨_, htraced.quiet hmore⟩

theorem Attaching.move {placed : PlacedEvent} (h : assembly.Attaching events starts k)
    (hevent : events[k]? = some placed) (hstarts : starts k = assembly.startsOutput placed)
    (hmove : Move assembly (assembly.place placed.line) placed.event next) :
    next.Attaching events starts (k + 1) := by
  obtain ⟨waiting, hwaits⟩ := h.waits
  have hlater : ∀ tokens, (∃ traced, Traces events starts k tokens traced) →
      ∃ traced, Traces events starts (k + 1) tokens traced :=
    fun tokens ⟨traced, htraced⟩ => ⟨traced, htraced.mono (Nat.le_succ k)⟩
  cases hstart : assembly.startsOutput placed with
  | true =>
      obtain ⟨uri, name, attributes, start, passed, hname, hform, hline, hpassed, htokens,
        hbindings, hoverrides, hscopes⟩ := hmove.of_startsOutput hstart
      obtain ⟨traced, htraced⟩ := (h.sequences.settled ignoresQuiet_traces).active
      have hstems : StemsFrom events ⟨k, start⟩ :=
        TracedToken.stemsFrom_of_isStart hform (by rw [hevent, hline, ← hname])
      have hpushed := (htraced.start hwaits (hstarts.trans hstart) hform hstems).quiet hpassed
      rw [← htokens] at hpushed
      refine ⟨⟨[], hbindings ▸ TracedToken.waits_nil⟩, ?_⟩
      exact (h.sequences.imp hlater).grow ⟨_, hpushed⟩ hscopes hoverrides
  | false =>
      refine ⟨?_, (h.sequences.imp hlater).move ignoresQuiet_traces hstart hmove⟩
      rcases hmove.bindings_eq hstart with hsame | ⟨label, uri, hbinding, hmore⟩
      · exact ⟨waiting, hsame ▸ hwaits.skip (hstarts.trans hstart)⟩
      · rw [hmore]
        refine ⟨_, hwaits.bind (hstarts.trans hstart) ?_⟩
        rw [hevent, ← hbinding]

end Run

end Assembly

-- An element among the events of a document, from its first declaration to its end.
structure ElementIn (events : List PlacedEvent) where
  front : List PlacedEvent
  tag : StartTag
  children : Forest
  endLine : Option Nat
  behind : List PlacedEvent
  split : events = front ++ (Forest.element tag children endLine .nil).events ++ behind

namespace ElementIn

variable {events : List PlacedEvent}

-- The events of the element and of all nodes inside it.
def Covers (element : ElementIn events) (position : Nat) : Prop :=
  element.front.length ≤ position ∧ position < element.front.length +
    (Forest.element element.tag element.children element.endLine .nil).events.length

end ElementIn

namespace EventStream

end EventStream

namespace EventStream

end EventStream

end TemplateMarkup
