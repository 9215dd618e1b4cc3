import TemplateMarkup.Proofs.Assembly.Reach

namespace TemplateMarkup

-- Whether events close an element that has `inner` open elements inside it. Inside a document
-- type no tag counts.
def closesElement (inDoctype : Bool) (inner : Nat) : List PlacedEvent → Bool
  | [] => false
  | placed :: rest =>
    match placed.event with
    | .doctypeStart .. => closesElement true inner rest
    | .doctypeEnd => closesElement false inner rest
    | .elementStart .. => closesElement inDoctype (if inDoctype then inner else inner + 1) rest
    | .elementEnd .. =>
      if inDoctype then closesElement true inner rest
      else inner == 0 || closesElement false (inner - 1) rest
    | _ => closesElement inDoctype inner rest

-- The tokens of the document types that begin among some events.
def doctypeTokens (resource : String) (events : List PlacedEvent) : List Token :=
  events.filterMap fun placed =>
    match placed.event with
    | .doctypeStart name publicId systemId =>
      some ⟨.doctype name publicId systemId, ⟨resource, placed.line⟩⟩
    | _ => none

def startsDoctype (events : List PlacedEvent) : Bool :=
  events.any fun placed => placed.event matches .doctypeStart ..

theorem doctypeTokens_eq_nil_iff (resource : String) (events : List PlacedEvent) :
    doctypeTokens resource events = [] ↔ startsDoctype events = false := by
  simp only [doctypeTokens, List.filterMap_eq_nil_iff, startsDoctype, List.any_eq_false]
  refine forall₂_congr fun placed _ => ?_
  obtain ⟨line, event⟩ := placed
  cases event <;> simp

-- A template with more tokens at the end of its main sequence.
def Template.append (template : Template) (tokens : List Token) : Template :=
  { template with tokens := template.tokens ++ tokens.toArray }

@[simp] theorem Template.append_nil (template : Template) : template.append [] = template := by
  simp [Template.append]

theorem Template.append_append (template : Template) (first second : List Token) :
    (template.append first).append second = template.append (first ++ second) := by
  simp [Template.append]

theorem Template.append_eq_self_iff (template : Template) (tokens : List Token) :
    template.append tokens = template ↔ tokens = [] := by
  constructor
  · intro h
    have hsize := congrArg (fun changed => changed.tokens.size) h
    simpa [Template.append] using hsize
  · rintro rfl
    exact template.append_nil

namespace Assembly

variable {assembly : Assembly} {events rest : List PlacedEvent} {placed : PlacedEvent}

-- The number of open elements inside the `<remove>` that is open.
def insideRemove (assembly : Assembly) : Nat :=
  assembly.scopes.findIdx (·.kind == .remove)

-- The content element is over, or a `<remove>` is open that the events leave open.
def Dead (assembly : Assembly) (events : List PlacedEvent) : Prop :=
  assembly.phase = .over ∨
    (∃ scope ∈ assembly.scopes, scope.kind = .remove) ∧
      closesElement assembly.inDoctype assembly.insideRemove events = false

theorem template_of_none (hpending : assembly.pending = none) :
    assembly.template = ⟨assembly.resource, assembly.tokens, assembly.ids, assembly.isExtension,
      assembly.overrides⟩ := by
  simp only [template, settled_of_none hpending]

theorem Muted.inRemoved_of_mem (h : assembly.Muted)
    (hopen : ∃ scope ∈ assembly.scopes, scope.kind = .remove) : assembly.inRemoved = true := by
  obtain ⟨scope, hm, hkind⟩ := hopen
  cases hremoved : assembly.inRemoved with
  | true => rfl
  | false =>
      have hdrops := h.not_drops hremoved scope hm
      rw [hkind] at hdrops
      cases hdrops

theorem Dead.over_or_inRemoved (h : assembly.Dead events) (hmuted : assembly.Muted) :
    assembly.phase = .over ∨ assembly.inRemoved = true :=
  h.imp_right fun hopen => hmuted.inRemoved_of_mem hopen.1

theorem Dead.isIdle (h : assembly.Dead events) (hmuted : assembly.Muted) :
    assembly.isIdle = true := by
  rcases h.over_or_inRemoved hmuted with hover | hremoved
  · exact isIdle_of_unheard (.inl hover)
  · exact isIdle_of_inRemoved hremoved

-- An event that leaves the assembly and every open element alone.
theorem Dead.of_closesElement (h : assembly.Dead (placed :: rest))
    (hsame : closesElement assembly.inDoctype assembly.insideRemove (placed :: rest) =
      closesElement assembly.inDoctype assembly.insideRemove rest) : assembly.Dead rest :=
  h.imp_right fun hopen => ⟨hopen.1, hsame.symm.trans hopen.2⟩

theorem insideRemove_cons {scope : Scope} {outer : List Scope}
    (hscopes : assembly.scopes = scope :: outer) (hkind : scope.kind ≠ .remove) :
    assembly.insideRemove = { assembly with scopes := outer }.insideRemove + 1 := by
  simp [insideRemove, hscopes, List.findIdx_cons, beq_eq_false_iff_ne.mpr hkind]

-- An element that begins in a removed one is one more to be closed before it.
theorem Dead.elementStart {line : Option Nat} {uri : Option String} {name : String}
    {attributes : List Attribute} (hmuted : assembly.Muted)
    (h : assembly.Dead (⟨line, .elementStart uri name attributes⟩ :: rest)) :
    ∃ next, assembly.step ⟨line, .elementStart uri name attributes⟩ = .accepted next ∧
      next.Dead rest ∧ next.template = assembly.template := by
  by_cases hover : assembly.phase = .over ∨ assembly.inDoctype = true
  · refine ⟨assembly, by simp [step, Assembly.react_elementStart, elementStart_eq, hover], ?_, rfl⟩
    rcases hover with hover | hdoctype
    · exact .inl hover
    · exact h.of_closesElement (by simp [closesElement, hdoctype])
  · have hphase : assembly.phase ≠ .over := fun he => hover (.inl he)
    have hdoctype : assembly.inDoctype = false := by simpa using fun he => hover (.inr he)
    obtain ⟨hopen, hleft⟩ := h.resolve_left hphase
    have hremoved := hmuted.inRemoved_of_mem hopen
    have hpending := hmuted.pending (.inr hremoved)
    have hnext : (assembly.push .removed assembly.compressing false).insideRemove =
        assembly.insideRemove + 1 := insideRemove_cons rfl (by simp)
    refine ⟨assembly.push .removed assembly.compressing false, ?_, ?_, ?_⟩
    · simp only [step, Assembly.react_elementStart, elementStart_eq, hphase, hdoctype, hremoved]
      rfl
    · obtain ⟨scope, hm, hkind⟩ := hopen
      refine .inr ⟨⟨scope, List.mem_cons_of_mem _ hm, hkind⟩, ?_⟩
      rw [hnext]
      simpa [closesElement, hdoctype, push] using hleft
    · rw [template_of_none hpending]
      exact template_of_none hpending

-- An element that ends there is one that began there.
theorem Dead.elementEnd {line : Option Nat} {uri : Option String} {name : String}
    (hmuted : assembly.Muted) (h : assembly.Dead (⟨line, .elementEnd uri name⟩ :: rest)) :
    ∃ next, assembly.step ⟨line, .elementEnd uri name⟩ = .accepted next ∧
      next.Dead rest ∧ next.template = assembly.template := by
  by_cases hover : assembly.phase = .over ∨ assembly.inDoctype = true
  · refine ⟨assembly, by simp [step, Assembly.elementEnd, hover], ?_, rfl⟩
    rcases hover with hover | hdoctype
    · exact .inl hover
    · exact h.of_closesElement (by simp [closesElement, hdoctype])
  · have hphase : assembly.phase ≠ .over := fun he => hover (.inl he)
    have hdoctype : assembly.inDoctype = false := by simpa using fun he => hover (.inr he)
    obtain ⟨hopen, hleft⟩ := h.resolve_left hphase
    have hpending := hmuted.pending (.inr (hmuted.inRemoved_of_mem hopen))
    simp only [closesElement, hdoctype, Bool.false_eq_true, if_false, Bool.or_eq_false_iff,
      beq_eq_false_iff_ne] at hleft
    obtain ⟨scope, hm, hkind⟩ := hopen
    cases hscopes : assembly.scopes with
    | nil => rw [hscopes] at hm; cases hm
    | cons top outer =>
        -- the `<remove>` is not the innermost element, since the event would close it
        have hinner : top.kind ≠ .remove := by
          intro htop
          exact hleft.1 (by simp [insideRemove, hscopes, List.findIdx_cons, htop])
        have hmem : scope ∈ outer := by
          rw [hscopes] at hm
          exact (List.mem_cons.mp hm).resolve_left fun he => hinner (he ▸ hkind)
        have htop : top.kind = .removed := by
          have hpairs := hmuted.scopes
          rw [hscopes] at hpairs
          exact (List.pairwise_cons.mp hpairs).1 scope hmem (by rw [hkind]; rfl)
        have hstep : assembly.step ⟨line, .elementEnd uri name⟩ =
            .accepted { assembly with scopes := outer } := by
          simp [step, Assembly.elementEnd, hphase, hdoctype, settled_of_none hpending,
            closeElement, hscopes, htop]
        rw [insideRemove_cons hscopes hinner, Nat.add_sub_cancel] at hleft
        refine ⟨_, hstep, .inr ⟨⟨scope, hmem, hkind⟩, ?_⟩, ?_⟩
        · rw [hdoctype]
          exact hleft.2
        · rw [template_of_none hpending]
          exact template_of_none hpending

-- Every event is taken in, and only document types show.
theorem Dead.step (hmuted : assembly.Muted) (h : assembly.Dead (placed :: rest)) :
    ∃ next, assembly.step placed = .accepted next ∧ next.Dead rest ∧
      next.template = assembly.template.append (doctypeTokens assembly.resource [placed]) := by
  have hidle := h.isIdle hmuted
  have hpending := hmuted.pending (h.over_or_inRemoved hmuted)
  obtain ⟨line, event⟩ := placed
  cases event with
  | elementStart uri name attributes => simpa [doctypeTokens] using h.elementStart hmuted
  | elementEnd uri name => simpa [doctypeTokens] using h.elementEnd hmuted
  | doctypeStart name publicId systemId =>
      refine ⟨_, rfl, h.imp_right fun hopen => ⟨hopen.1, hopen.2⟩, ?_⟩
      rw [template_of_none hpending]
      exact template_of_none hpending
  | doctypeEnd =>
      refine ⟨_, rfl, h.imp_right fun hopen => ⟨hopen.1, hopen.2⟩, ?_⟩
      rw [template_of_none hpending]
      exact template_of_none hpending
  | documentStart | documentEnd =>
      exact ⟨assembly, rfl, h.of_closesElement rfl, by simp [doctypeTokens]⟩
  | text content =>
      exact ⟨assembly, by simp [Assembly.step, react_characters, characters_eq, hidle],
        h.of_closesElement rfl, by simp [doctypeTokens]⟩
  | comment content =>
      exact ⟨assembly, by simp [Assembly.step, Assembly.comment, hidle], h.of_closesElement rfl,
        by simp [doctypeTokens]⟩
  | cdataStart =>
      exact ⟨assembly, by simp [Assembly.step, Assembly.cdataStart, hidle], h.of_closesElement rfl,
        by simp [doctypeTokens]⟩
  | cdataEnd =>
      exact ⟨assembly, by simp [Assembly.step, Assembly.cdataEnd, hidle], h.of_closesElement rfl,
        by simp [doctypeTokens]⟩
  | binding label uri =>
      exact ⟨assembly, by simp [Assembly.step, Assembly.binding, hidle], h.of_closesElement rfl,
        by simp [doctypeTokens]⟩

theorem template_resource (assembly : Assembly) :
    assembly.template.resource = assembly.resource :=
  settled_resource assembly

theorem Dead.feed (hmuted : assembly.Muted) (h : assembly.Dead events) :
    ∃ final, assembly.feed events = .ok final ∧
      final.template = assembly.template.append (doctypeTokens assembly.resource events) := by
  induction events generalizing assembly with
  | nil => exact ⟨assembly, rfl, by simp [doctypeTokens]⟩
  | cons placed rest ih =>
      obtain ⟨next, hstep, hnext, htemplate⟩ := h.step hmuted
      have hkept : next.Muted := by
        have hfault : (assembly.step placed).fault = none := by rw [hstep]; rfl
        have hmove := move_of_step hfault
        rw [hstep] at hmove
        exact hmuted.move hmove
      obtain ⟨final, hfeed, hfinal⟩ := ih hkept hnext
      have hresource : next.resource = assembly.resource := by
        rw [← template_resource, htemplate, ← template_resource]
        rfl
      refine ⟨final, (feed_of_accepted hstep rest).trans hfeed, ?_⟩
      rw [hfinal, htemplate, hresource, Template.append_append]
      simp only [doctypeTokens, ← List.filterMap_append, List.singleton_append]

-- Behind the content element, and in a removed element as long as it stays open, every event is
-- taken in. The template changes by the tokens of document types alone, which show wherever they
-- stand, so without a document type it stays the same.
theorem feed_dead (h : assembly.Reachable) (hdead : assembly.Dead events) :
    ∃ final, assembly.feed events = .ok final ∧
      final.template = assembly.template.append (doctypeTokens assembly.resource events) ∧
      (final.template = assembly.template ↔ startsDoctype events = false) := by
  obtain ⟨final, hfeed, hfinal⟩ := hdead.feed (muted_of_reachable h)
  refine ⟨final, hfeed, hfinal, ?_⟩
  rw [hfinal, Template.append_eq_self_iff, doctypeTokens_eq_nil_iff]

-- A removed element inside an output element, with one more element open in it.
def removedParagraph : Assembly :=
  (start "T.tml" true).after [
    ⟨some 1, .elementStart none "div" []⟩, ⟨some 1, .text "x"⟩,
    ⟨some 2, .elementStart (some Naming.templateUri51) "remove" []⟩,
    ⟨some 2, .elementStart none "p" []⟩]

-- Events of many kinds that would not be accepted, or would show, anywhere else.
def removedEvents : List PlacedEvent := [
  ⟨some 3, .text "y"⟩, ⟨some 3, .binding "u" "urn:u"⟩,
  ⟨some 3, .elementStart (some Naming.templateUri51) "extend" []⟩, ⟨some 3, .comment "z"⟩,
  ⟨some 3, .elementEnd (some Naming.templateUri51) "extend"⟩, ⟨some 4, .cdataStart⟩,
  ⟨some 4, .cdataEnd⟩, ⟨some 4, .elementEnd none "p"⟩]

theorem feed_removedEvents :
    removedParagraph.Reachable ∧ removedParagraph.Dead removedEvents ∧
      ∃ final, removedParagraph.feed removedEvents = .ok final ∧
        final.template = removedParagraph.template.append
          (doctypeTokens removedParagraph.resource removedEvents) ∧
        (final.template = removedParagraph.template ↔ startsDoctype removedEvents = false) := by
  have hreach : removedParagraph.Reachable := ⟨_, _, _, rfl⟩
  have hdead : removedParagraph.Dead removedEvents := .inr (by decide +kernel)
  exact ⟨hreach, hdead, feed_dead hreach hdead⟩

-- A content element from its start to its end.
def closedContent : Assembly :=
  (start "T.tml" true).after [
    ⟨some 1, .elementStart (some Naming.templateUri51) "content" []⟩, ⟨some 1, .text "x"⟩,
    ⟨some 1, .elementEnd (some Naming.templateUri51) "content"⟩]

-- A document type behind the content element shows in the template.
theorem dead_doctype_shows :
    ¬ ∀ (assembly : Assembly) (events : List PlacedEvent), assembly.Reachable →
      assembly.Dead events →
      ∃ final, assembly.feed events = .ok final ∧ final.template = assembly.template := by
  intro h
  obtain ⟨final, hfeed, hfinal⟩ := h closedContent
    [⟨some 2, .doctypeStart "html" none none⟩, ⟨some 2, .doctypeEnd⟩] ⟨_, _, _, rfl⟩
    (.inl (by decide +kernel))
  have hafter : (closedContent.feed
      [⟨some 2, .doctypeStart "html" none none⟩, ⟨some 2, .doctypeEnd⟩]).toOption.map
        (·.template.tokens.size) = some 2 := by
    decide +kernel
  have hbefore : closedContent.template.tokens.size = 1 := by decide +kernel
  rw [hfeed, Except.toOption, Option.map_some, hfinal, hbefore] at hafter
  cases hafter

end Assembly

end TemplateMarkup
