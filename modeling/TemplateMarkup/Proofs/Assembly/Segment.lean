import TemplateMarkup.Proofs.Assembly.OpenElements
import TemplateMarkup.Proofs.Region.Recording

namespace TemplateMarkup

-- Whether events close exactly the elements that they open and `inner` elements from before.
def elementsMatched (inner : Nat) : List PlacedEvent → Bool
  | [] => inner == 0
  | placed :: rest =>
    match placed.event with
    | .elementStart .. => elementsMatched (inner + 1) rest
    | .elementEnd .. => inner != 0 && elementsMatched (inner - 1) rest
    | _ => elementsMatched inner rest

theorem elementsMatched_of_not_isTag {placed : PlacedEvent} (htag : placed.event.isTag = false)
    (inner : Nat) (rest : List PlacedEvent) :
    elementsMatched inner (placed :: rest) = elementsMatched inner rest := by
  obtain ⟨line, event⟩ := placed
  cases event <;> first | rfl | cases htag

namespace Assembly

variable {outside assembly next final : Assembly} {opened : List Scope} {location : Location}
  {placed : PlacedEvent} {rest events : List PlacedEvent}

-- One sequence begins with all of another.
def Continues (tokens later : Array Token) : Prop :=
  ∃ more, later = tokens ++ more

theorem continues_refl (tokens : Array Token) : Continues tokens tokens :=
  ⟨#[], by simp⟩

theorem continues_append (tokens more : Array Token) : Continues tokens (tokens ++ more) :=
  ⟨more, rfl⟩

theorem Continues.trans {tokens later last : Array Token} (h : Continues tokens later)
    (hlast : Continues later last) : Continues tokens last := by
  obtain ⟨first, rfl⟩ := h
  obtain ⟨second, rfl⟩ := hlast
  exact ⟨first ++ second, Array.append_assoc⟩

-- The sequence that is active again once an element is left.
def resumes (tokens : Array Token) (scope : Scope) : Array Token :=
  match scope.kind.region? with
  | some (_, saved) => saved
  | none => tokens

-- The same for several elements, innermost first.
def resumed (tokens : Array Token) (opened : List Scope) : Array Token :=
  opened.foldl resumes tokens

theorem Continues.resumed {tokens later : Array Token} (h : Continues tokens later)
    (opened : List Scope) : Continues (resumed tokens opened) (resumed later opened) := by
  induction opened generalizing tokens later with
  | nil => exact h
  | cons scope outer ih =>
      refine ih ?_
      unfold resumes
      split
      · exact continues_refl _
      · exact h

-- What events have made of an assembly, with the elements that they have opened and not closed
-- yet. As long as none of these is a content element, the sequence goes on behind them.
structure Within (outside assembly : Assembly) (opened : List Scope) : Prop where
  scopes : assembly.scopes = opened ++ outside.scopes
  phase : assembly.phase ≠ .over
  tokens : (∀ scope ∈ opened, scope.kind ≠ .content) →
    Continues outside.tokens (resumed assembly.tokens opened)

theorem within_self (hphase : outside.phase ≠ .over) : Within outside outside [] :=
  ⟨rfl, hphase, fun _ => continues_refl _⟩

theorem Within.stay (h : Within outside assembly opened) (hscopes : next.scopes = assembly.scopes)
    (hphase : next.phase = assembly.phase) (htokens : Continues assembly.tokens next.tokens) :
    Within outside next opened where
  scopes := hscopes.trans h.scopes
  phase := hphase ▸ h.phase
  tokens hfree := (h.tokens hfree).trans (htokens.resumed opened)

theorem Within.settled (h : Within outside assembly opened) :
    Within outside assembly.settled opened :=
  h.stay (settled_scopes _) (settled_phase _) ⟨_, settled_tokens _⟩

theorem Within.enter (h : Within outside assembly opened) {scope : Scope}
    (hscopes : next.scopes = scope :: assembly.scopes) (hphase : next.phase ≠ .over)
    (htokens : scope.kind ≠ .content → Continues assembly.tokens (resumes next.tokens scope)) :
    Within outside next (scope :: opened) where
  scopes := by rw [hscopes, h.scopes, List.cons_append]
  phase := hphase
  tokens hfree := by
    have hinner := htokens (hfree scope List.mem_cons_self)
    exact (h.tokens fun other hm => hfree other (List.mem_cons_of_mem _ hm)).trans
      (hinner.resumed opened)

theorem Within.opening {uri : Option String} {name : String} {attributes : List Attribute}
    {compress : Bool} (h : Within outside assembly opened)
    (ho : Opening assembly uri name attributes compress location next) :
    ∃ scope, Within outside next (scope :: opened) ∧
      (scope.kind = .content → ElementRole.ofName uri name = .directive .content) := by
  have hphase := h.phase
  cases ho with
  | content hrole hinside =>
      exact ⟨_, h.enter rfl (by simp [pushBare, push]) fun hne => absurd rfl hne, fun _ => hrole⟩
  | output | extensionPoint | body | block | parameter | blockParameter =>
      exact ⟨_, h.enter rfl hphase fun _ => continues_append _ _, fun he => by cases he⟩
  | remove | extend | replace | container =>
      exact ⟨_, h.enter rfl hphase fun _ => continues_refl _, fun he => by cases he⟩

-- Leaving an element gives back the sequence around it, unless the element is the content element.
theorem Within.closing {scope : Scope} (h : Within outside assembly (scope :: opened))
    (hc : Closing assembly location next) :
    next.phase = .over ∧ scope.kind = .content ∨ Within outside next opened := by
  have hleave : ∀ {after : Assembly}, scope.kind ≠ .content → after.scopes = assembly.scopes.tail →
      after.phase = assembly.phase → Continues (resumes assembly.tokens scope) after.tokens →
      Within outside after opened := by
    intro after hkind hscopes hphase htokens
    refine ⟨by rw [hscopes, h.scopes]; rfl, hphase ▸ h.phase, fun hfree => ?_⟩
    have hall : ∀ other ∈ scope :: opened, other.kind ≠ .content := by
      intro other hm
      rcases List.mem_cons.mp hm with rfl | hm
      · exact hkind
      · exact hfree other hm
    exact (h.tokens hall).trans (htokens.resumed opened)
  have htop : ∀ {top : Scope} {outer : List Scope}, assembly.scopes = top :: outer →
      top = scope ∧ outer = assembly.scopes.tail := by
    intro top outer hscopes
    have he := hscopes.symm.trans h.scopes
    rw [List.cons_append, List.cons.injEq] at he
    exact ⟨he.1, by rw [hscopes, List.tail_cons]⟩
  cases hc with
  | stray hscopes =>
      rw [h.scopes] at hscopes
      cases hscopes
  | element compress isComponent outer hscopes =>
      obtain ⟨rfl, houter⟩ := htop hscopes
      exact .inr (hleave (by simp) houter rfl (continues_append _ _))
  | content compress isComponent outer hscopes =>
      obtain ⟨rfl, -⟩ := htop hscopes
      exact .inl ⟨rfl, rfl⟩
  | region top outer id saved hscopes hkind =>
      obtain ⟨rfl, houter⟩ := htop hscopes
      refine .inr (hleave (ScopeKind.ne_of_region? hkind).2 houter rfl ?_)
      simp only [resumes, hkind]
      exact continues_refl _
  | bare top outer hscopes hkind =>
      obtain ⟨rfl, houter⟩ := htop hscopes
      refine .inr (hleave (ScopeKind.ne_of_isBare hkind).2 houter rfl ?_)
      simp only [resumes, ScopeKind.region?_of_isBare hkind]
      exact continues_refl _

-- One event of a matched segment: it ends the content element, or it leads to as many open
-- elements as the rest will close. Only the start of a content element brings one in.
theorem Within.move (h : Within outside assembly opened)
    (hdoctypes : doctypesClosed assembly.inDoctype (placed :: rest) = true)
    (hmatched : elementsMatched opened.length (placed :: rest) = true)
    (hmove : Move assembly (assembly.place placed.line) placed.event next) :
    (next.phase = .over ∧ ∃ scope ∈ opened, scope.kind = .content) ∨
      ∃ inner, Within outside next inner ∧ elementsMatched inner.length rest = true ∧
        (assembly.startsContent placed = false → (∀ scope ∈ opened, scope.kind ≠ .content) →
          ∀ scope ∈ inner, scope.kind ≠ .content) := by
  obtain ⟨line, event⟩ := placed
  have hsame : event.isTag = false → Within outside next opened →
      ∃ inner, Within outside next inner ∧ elementsMatched inner.length rest = true ∧
        (assembly.startsContent ⟨line, event⟩ = false → (∀ scope ∈ opened, scope.kind ≠ .content) →
          ∀ scope ∈ inner, scope.kind ≠ .content) := fun htag hw =>
    ⟨opened, hw, (elementsMatched_of_not_isTag htag _ _).symm.trans hmatched, fun _ hfree => hfree⟩
  cases hmove with
  | pass event hmark htag hprose =>
      cases htagged : event.isTag with
      | false => exact .inr (hsame htagged h)
      | true =>
          have hin := (htag htagged).resolve_left h.phase
          rw [(doctypesClosed_of_not_isDoctypeMark hdoctypes hmark).1] at hin
          cases hin
  | bury uri name attributes hphase hdoctype hremoved =>
      refine .inr ⟨_, h.enter rfl hphase fun _ => continues_refl _, hmatched, fun _ hfree => ?_⟩
      exact List.forall_mem_cons.mpr ⟨by simp, hfree⟩
  | start uri name attributes next hphase hdoctype hremoved hplace hopening =>
      obtain ⟨scope, hw, hcontent⟩ := h.settled.opening hopening
      have hidle := isIdle_eq_false hphase hdoctype hremoved
      refine .inr ⟨_, hw, hmatched, fun hstarts hfree => ?_⟩
      refine List.forall_mem_cons.mpr ⟨fun hkind => ?_, hfree⟩
      simp [startsContent, hidle, hcontent hkind] at hstarts
  | finish uri name next hphase hdoctype hclosing =>
      cases opened with
      | nil => cases hmatched
      | cons scope outer =>
          rcases h.settled.closing hclosing with ⟨hover, hkind⟩ | hw
          · exact .inl ⟨hover, scope, List.mem_cons_self, hkind⟩
          · refine .inr ⟨outer, hw, hmatched, fun _ hfree => ?_⟩
            exact fun other hm => hfree other (List.mem_cons_of_mem _ hm)
  | gather text pending hidle hbody hpending =>
      exact .inr (hsame rfl (h.stay rfl rfl (continues_refl _)))
  | comment text hidle => exact .inr (hsame rfl (h.settled.stay rfl rfl (continues_append _ _)))
  | cdataStart hidle => exact .inr (hsame rfl (h.settled.stay rfl rfl (continues_refl _)))
  | cdataEnd pending hidle hpending =>
      exact .inr (hsame rfl (h.stay rfl rfl (continues_append _ _)))
  | doctypeStart name publicId systemId =>
      exact .inr (hsame rfl (h.stay rfl rfl (continues_append _ _)))
  | doctypeEnd => exact .inr (hsame rfl (h.stay rfl rfl (continues_refl _)))
  | bind label uri hidle => exact .inr (hsame rfl (h.stay rfl rfl (continues_refl _)))

-- The content element is over for good.
theorem over_of_feed (h : assembly.phase = .over) (hfeed : assembly.feed events = .ok final) :
    final.phase = .over := by
  refine feed_induction (motive := fun reached _ => reached.phase = .over) hfeed h ?_
  intro before placed rest hover hmove
  generalize (before.step placed).next = after at hmove
  obtain ⟨line, event⟩ := placed
  cases hmove with
  | bury _ _ _ hphase | start _ _ _ _ hphase | finish _ _ _ hphase => exact absurd hover hphase
  | comment | cdataStart => exact (settled_phase _).trans hover
  | _ => exact hover

theorem Within.feed (h : Within outside assembly opened)
    (hdoctypes : doctypesClosed assembly.inDoctype events = true)
    (hmatched : elementsMatched opened.length events = true)
    (hfeed : assembly.feed events = .ok final) :
    (final.phase = .over ∨ Within outside final []) ∧
      ((∀ scope ∈ opened, scope.kind ≠ .content) → assembly.opensContent events = false →
        Within outside final []) := by
  induction events generalizing assembly opened with
  | nil =>
      cases hfeed
      have hnone : opened = [] := List.length_eq_zero_iff.mp (beq_iff_eq.mp hmatched)
      subst hnone
      exact ⟨.inr h, fun _ _ => h⟩
  | cons placed rest ih =>
      obtain ⟨hfault, hrest⟩ := accepted_of_feed hfeed
      have hmove := move_of_step hfault
      rcases h.move hdoctypes hmatched hmove with ⟨hover, scope, hm, hkind⟩ | ⟨inner, hw, hi, hfree⟩
      · exact ⟨.inl (over_of_feed hover hrest), fun hnone => absurd hkind (hnone scope hm)⟩
      · obtain ⟨hscopes, hclean⟩ := ih hw (doctypesClosed_of_move hdoctypes hmove) hi hrest
        refine ⟨hscopes, fun hnone hcontent => ?_⟩
        simp only [opensContent, Bool.or_eq_false_iff] at hcontent
        exact hclean (hfree hcontent.1 hnone) hcontent.2

-- Events that close what they open restore the open elements around them, with all their settings
-- and with the sequences that they keep, unless the content element has ended. Where no content
-- element has begun among the events, it has not ended either, and the sequence goes on where it
-- was. The assembly need not be one that can be reached.
theorem feed_matched (hphase : assembly.phase ≠ .over) (hdoctype : assembly.inDoctype = false)
    (hmatched : elementsMatched 0 events = true) (hdoctypes : doctypesClosed false events = true)
    (hfeed : assembly.feed events = .ok final) :
    (final.phase = .over ∨ final.scopes = assembly.scopes) ∧
      (assembly.opensContent events = false →
        final.phase ≠ .over ∧ assembly.tokens.toList <+: final.tokens.toList) := by
  obtain ⟨hscopes, hclean⟩ :=
    (within_self hphase).feed (by rwa [hdoctype]) hmatched hfeed
  refine ⟨hscopes.imp_right fun hw => hw.scopes, fun hcontent => ?_⟩
  have hw := hclean (by simp) hcontent
  obtain ⟨more, hmore⟩ := hw.tokens (by simp)
  refine ⟨hw.phase, more.toList, ?_⟩
  rw [← Array.toList_append, ← hmore]
  rfl

-- A component in which white space counts, with text that is still pending.
def keptSpace : Assembly :=
  (start "T.tml" true).after [
    ⟨some 1, .elementStart none "div" [⟨some Naming.xmlUri, "space", "preserve"⟩,
      ⟨some Naming.templateUri51, "id", "a"⟩]⟩, ⟨some 1, .text "  x"⟩]

-- Elements of all kinds that put the sequence aside, change the settings or drop what is inside.
def matchedEvents : List PlacedEvent := [
  ⟨some 2, .doctypeStart "html" none none⟩, ⟨some 2, .doctypeEnd⟩,
  ⟨some 3, .elementStart (some Naming.templateUri51) "extension-point"
    [⟨none, "id", "b"⟩, ⟨some Naming.xmlUri, "space", "default"⟩]⟩,
  ⟨some 4, .elementStart (some Naming.parameterUri) "p" []⟩,
  ⟨some 4, .elementStart (some Naming.templateUri51) "remove" []⟩,
  ⟨some 5, .elementStart (some Naming.templateUri51) "content" []⟩,
  ⟨some 5, .elementEnd (some Naming.templateUri51) "content"⟩,
  ⟨some 6, .elementEnd (some Naming.templateUri51) "remove"⟩,
  ⟨some 6, .elementEnd (some Naming.parameterUri) "p"⟩,
  ⟨some 7, .elementEnd (some Naming.templateUri51) "extension-point"⟩,
  ⟨some 7, .elementStart (some Naming.templateUri51) "body" []⟩,
  ⟨some 7, .elementEnd (some Naming.templateUri51) "body"⟩, ⟨some 8, .comment "y"⟩]

theorem feed_matchedEvents :
    ∃ final, keptSpace.feed matchedEvents = .ok final ∧ keptSpace.phase ≠ .over ∧
      keptSpace.inDoctype = false ∧ elementsMatched 0 matchedEvents = true ∧
      doctypesClosed false matchedEvents = true ∧
      keptSpace.opensContent matchedEvents = false ∧
      (final.phase = .over ∨ final.scopes = keptSpace.scopes) ∧
      (keptSpace.opensContent matchedEvents = false →
        final.phase ≠ .over ∧ keptSpace.tokens.toList <+: final.tokens.toList) := by
  have haccepted : (keptSpace.feed matchedEvents).toBool = true := by decide +kernel
  cases hfeed : keptSpace.feed matchedEvents with
  | error fault =>
      rw [hfeed] at haccepted
      cases haccepted
  | ok final =>
      have hphase : keptSpace.phase ≠ .over := by decide +kernel
      have hdoctype : keptSpace.inDoctype = false := by decide +kernel
      have hcontent : keptSpace.opensContent matchedEvents = false := by decide +kernel
      exact ⟨final, rfl, hphase, hdoctype, by decide, by decide, hcontent,
        feed_matched hphase hdoctype (by decide) (by decide) hfeed⟩

end Assembly

end TemplateMarkup
