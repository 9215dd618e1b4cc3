import TemplateMarkup.Proofs.Assembly.OpenElements

namespace TemplateMarkup

-- The elements in which everything is dropped.
def ScopeKind.drops : ScopeKind → Bool
  | .remove | .removed => true
  | _ => false

namespace Assembly

variable {assembly : Assembly}

-- An assembly that some events lead to, refused ones among them.
def Reachable (assembly : Assembly) : Prop :=
  ∃ resource compress events, assembly = (start resource compress).after events

-- A refused event settles the pending text at most.
theorem next_of_refused {placed : PlacedEvent} (h : (assembly.step placed).fault ≠ none) :
    (assembly.step placed).next = assembly ∨ (assembly.step placed).next = assembly.settled := by
  obtain ⟨line, event⟩ := placed
  cases event with
  | elementStart uri name attributes =>
      simp only [step, react_elementStart, elementStart_eq]
      split
      · exact .inl rfl
      · rename_i hcounts
        split
        · rename_i hremoved
          simp [step, react_elementStart, elementStart_eq, hcounts, hremoved,
            Reaction.accepted] at h
        · rename_i hremoved
          split
          · exact .inl rfl
          · rename_i hplace
            split
            · rename_i hopen
              simp [step, react_elementStart, elementStart_eq, hcounts, hremoved, hplace, hopen,
                Reaction.accepted] at h
            · exact .inr rfl
  | text content =>
      simp only [step, react_characters, characters_eq]
      split
      · exact .inl rfl
      · rename_i hidle
        split
        · exact .inl rfl
        · rename_i hbody
          simp [step, react_characters, characters_eq, hidle, hbody, Reaction.accepted] at h
  | _ => exact absurd rfl h

-- What holds of an assembly without events, and passes through every move and through settling,
-- holds of every assembly that can be reached.
theorem Reachable.induction {motive : Assembly → Prop} (h : assembly.Reachable)
    (hstart : ∀ resource compress, motive (start resource compress))
    (hsettled : ∀ before : Assembly, motive before → motive before.settled)
    (hmove : ∀ (before : Assembly) (placed : PlacedEvent), motive before →
      Move before (before.place placed.line) placed.event (before.step placed).next →
      motive (before.step placed).next) :
    motive assembly := by
  have hstep : ∀ (before : Assembly) (placed : PlacedEvent), motive before →
      motive (before.step placed).next := by
    intro before placed hb
    by_cases hfault : (before.step placed).fault = none
    · exact hmove before placed hb (move_of_step hfault)
    · rcases next_of_refused hfault with he | he
      · rwa [he]
      · rw [he]
        exact hsettled before hb
  have hafter : ∀ (events : List PlacedEvent) (before : Assembly), motive before →
      motive (before.after events) := by
    intro events
    induction events with
    | nil => exact fun before hb => hb
    | cons placed rest ih => exact fun before hb => ih _ (hstep before placed hb)
  obtain ⟨resource, compress, events, rfl⟩ := h
  exact hafter events _ (hstart resource compress)

-- No text is pending in removed elements and behind the content element, and every element that
-- is opened in a removed one counts as removed.
structure Muted (assembly : Assembly) : Prop where
  pending : assembly.phase = .over ∨ assembly.inRemoved = true → assembly.pending = none
  scopes : assembly.scopes.Pairwise fun inner outer =>
    outer.kind.drops = true → inner.kind = .removed

theorem inRemoved_cons {scope : Scope} {outer : List Scope}
    (hscopes : assembly.scopes = scope :: outer) : assembly.inRemoved = scope.kind.drops := by
  simp only [inRemoved, hscopes]
  cases scope.kind <;> rfl

theorem inRemoved_congr {next : Assembly} (h : next.scopes = assembly.scopes) :
    next.inRemoved = assembly.inRemoved := by
  simp only [inRemoved, h]

-- Outside of removed elements none is open further out.
theorem Muted.not_drops (h : assembly.Muted) (hremoved : assembly.inRemoved = false) :
    ∀ scope ∈ assembly.scopes, scope.kind.drops = false := by
  have hpairs := h.scopes
  cases hscopes : assembly.scopes with
  | nil => simp
  | cons top outer =>
      rw [hscopes] at hpairs
      have htop : top.kind.drops = false := (inRemoved_cons hscopes).symm.trans hremoved
      intro scope hm
      rcases List.mem_cons.mp hm with rfl | hm
      · exact htop
      · cases hdrops : scope.kind.drops with
        | false => rfl
        | true =>
            rw [(List.pairwise_cons.mp hpairs).1 scope hm hdrops] at htop
            cases htop

theorem Muted.of_settled_text {next : Assembly} (h : assembly.Muted) (hpending : next.pending = none)
    (hscopes : next.scopes = assembly.scopes) : next.Muted :=
  ⟨fun _ => hpending, hscopes ▸ h.scopes⟩

-- Where events count, pending text does not matter.
theorem Muted.of_counting {next : Assembly} (h : assembly.Muted) (hidle : assembly.isIdle = false)
    (hphase : next.phase = assembly.phase) (hscopes : next.scopes = assembly.scopes) :
    next.Muted := by
  simp only [isIdle, Bool.or_eq_false_iff, beq_eq_false_iff_ne] at hidle
  refine ⟨?_, hscopes ▸ h.scopes⟩
  rintro (hover | hremoved)
  · exact absurd (hphase ▸ hover) hidle.1.2
  · rw [inRemoved_congr hscopes, hidle.2] at hremoved
    cases hremoved

theorem Opening.pending_eq {next : Assembly} {uri : Option String} {name : String}
    {attributes : List Attribute} {compress : Bool} {location : Location}
    (h : Opening assembly uri name attributes compress location next) :
    next.pending = assembly.pending := by
  cases h <;> rfl

theorem Closing.pending_eq {next : Assembly} {location : Location}
    (h : Closing assembly location next) : next.pending = assembly.pending := by
  cases h <;> rfl

theorem Muted.move {next : Assembly} {placed : PlacedEvent} (h : assembly.Muted)
    (hmove : Move assembly (assembly.place placed.line) placed.event next) : next.Muted := by
  obtain ⟨line, event⟩ := placed
  cases hmove with
  | pass event hmark htag hprose => exact h
  | bury uri name attributes hphase hdoctype hremoved =>
      exact ⟨fun _ => h.pending (.inr hremoved),
        List.pairwise_cons.mpr ⟨fun _ _ _ => rfl, h.scopes⟩⟩
  | start uri name attributes next hphase hdoctype hremoved hplace hopening =>
      obtain ⟨scope, hscopes⟩ := hopening.scopes_eq
      have hpending : next.pending = none := hopening.pending_eq.trans (settled_pending _)
      refine ⟨fun _ => hpending, ?_⟩
      rw [hscopes, settled_scopes]
      refine List.pairwise_cons.mpr ⟨fun outer hm hdrops => ?_, h.scopes⟩
      rw [h.not_drops hremoved outer hm] at hdrops
      cases hdrops
  | finish uri name next hphase hdoctype hclosing =>
      have hpending : next.pending = none := hclosing.pending_eq.trans (settled_pending _)
      refine ⟨fun _ => hpending, ?_⟩
      rw [hclosing.scopes_eq, settled_scopes]
      exact h.scopes.tail
  | gather text pending hidle hbody => exact h.of_counting hidle rfl rfl
  | comment text hidle =>
      exact h.of_settled_text (settled_pending _) (settled_scopes _)
  | cdataStart hidle => exact h.of_counting hidle (settled_phase _) (settled_scopes _)
  | cdataEnd pending hidle hpending => exact h.of_settled_text rfl rfl
  | doctypeStart name publicId systemId => exact ⟨h.pending, h.scopes⟩
  | doctypeEnd => exact ⟨h.pending, h.scopes⟩
  | bind label uri hidle => exact ⟨h.pending, h.scopes⟩

theorem muted_of_reachable (h : assembly.Reachable) : assembly.Muted :=
  h.induction (fun _ _ => ⟨fun _ => rfl, List.Pairwise.nil⟩)
    (fun _ hb => hb.of_settled_text (settled_pending _) (settled_scopes _))
    fun _ _ hb hmove => hb.move hmove

end Assembly

end TemplateMarkup
