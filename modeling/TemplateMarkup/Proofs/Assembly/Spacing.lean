import TemplateMarkup.Proofs.Assembly.Abreast

namespace TemplateMarkup

-- Whether a token is a part of character data, text or a placeholder.
def Token.isFragment (token : Token) : Bool :=
  match token.form with
  | .text _ | .expansion _ => true
  | _ => false

-- The tokens that are no part of character data.
def Token.structural (tokens : Array Token) : Array Token :=
  tokens.filter fun token => !token.isFragment

-- What is left of a template without its text.
structure Outline where
  tokens : Array Token
  ids : IdTable Location
  isExtension : Bool
  overrides : Option (List (String × Array Token))

def Template.outline (template : Template) : Outline where
  tokens := Token.structural template.tokens
  ids := template.ids
  isExtension := template.isExtension
  overrides := template.overrides.map fun table =>
    table.toList.map fun entry => (entry.1, Token.structural entry.2)

theorem Token.structural_append (first second : Array Token) :
    structural (first ++ second) = structural first ++ structural second := by
  simp [structural]

namespace Assembly

-- Of a run that compresses white space and one that does not: sequences are the same without
-- their text, and where the first has content the second has some. The first compresses wherever
-- the second does.
def apartFromSpace : Likeness where
  sequences tokens others :=
    Token.structural tokens = Token.structural others ∧
      (tokens.any (fun token => !token.isDoctype) = true →
        others.any (fun token => !token.isDoctype) = true)
  settings compress setting := setting = true → compress = true
  texts pending other := pending = other
  empty := ⟨rfl, id⟩
  append tokens others more h _ := by
    refine ⟨by rw [Token.structural_append, Token.structural_append, h.1], ?_⟩
    rw [Array.any_append, Array.any_append, Bool.or_eq_true, Bool.or_eq_true]
    exact Or.imp_left h.2
  same _ := id
  unchanged _ := rfl

variable {first second : Assembly}

-- Pending text leaves nothing but text.
theorem structural_settled (assembly : Assembly) :
    Token.structural assembly.settled.tokens = Token.structural assembly.tokens := by
  rw [settled_tokens, Token.structural_append]
  have hnone : Token.structural assembly.settlement = #[] := by
    rw [Token.structural, Array.filter_eq_empty_iff]
    intro token hm
    obtain ⟨pending, fragment, -, rfl⟩ := mem_settlement hm
    cases fragment <;> simp [Token.isFragment, fragmentForm]
  rw [hnone, Array.append_empty]

theorem shows_of_settings {compress setting : Bool} (h : setting = true → compress = true)
    {text : String} (hshows : shows compress text = true) : shows setting text = true := by
  cases compress with
  | true => exact shows_of_compressed hshows
  | false =>
      cases setting with
      | false => exact hshows
      | true => cases h rfl

theorem InStep.gathered_eq (h : InStep apartFromSpace first second) (text : String)
    (location : Location) : first.gathered text location = second.gathered text location := by
  have hpending : first.pending = second.pending := h.texts
  rw [gathered, gathered, hpending]

theorem InStep.sectionToken_eq (h : InStep apartFromSpace first second) (location : Location) :
    first.sectionToken location = second.sectionToken location := by
  have hpending : first.pending = second.pending := h.texts
  rw [sectionToken, sectionToken, hpending]

theorem InStep.structural_eq (h : InStep apartFromSpace first second) :
    Token.structural first.tokens = Token.structural second.tokens := by
  rw [← structural_settled first, ← structural_settled second]
  exact h.settled.tokens.1

theorem tracks_apartFromSpace : apartFromSpace.Tracks where
  gather := by
    intro first second h text location
    refine ⟨⟨?_, ?_⟩, congrArg some (h.gathered_eq text location)⟩
    · rw [structural_settled, structural_settled]
      exact h.structural_eq
    · rw [any_settled_gathered isDoctype_fragment, any_settled_gathered isDoctype_fragment,
        Bool.or_eq_true, Bool.or_eq_true]
      exact Or.imp h.settled.tokens.2 (shows_of_settings h.compressing)
  cdata := by
    intro first second h location
    refine ⟨?_, fun _ => ?_⟩
    · rw [Token.structural_append, Token.structural_append, h.structural_eq,
        h.sectionToken_eq location]
    · rw [Array.any_append]
      simp [sectionToken, Token.isDoctype, TokenForm.isDoctype]
  doctype := by
    intro first second h token htoken
    refine ⟨?_, ?_⟩
    · rw [structural_settled, structural_settled, emit, emit, Token.structural_append,
        Token.structural_append, h.structural_eq]
    · rw [any_settled_emit isDoctype_fragment, any_settled_emit isDoctype_fragment, htoken]
      simpa using h.settled.tokens.2

theorem InStep.comment_both (h : InStep apartFromSpace first second) (content : String)
    (location : Location) :
    InStep apartFromSpace (first.comment content location) (second.comment content location) := by
  simp only [Assembly.comment, ← h.isIdle]
  split
  · exact h
  · refine Abreast.inStep { h.settled with tokens := ?_ } (settled_pending _) (settled_pending _)
    refine ⟨?_, fun _ => ?_⟩
    · simp only [emitOne, emit]
      rw [Token.structural_append, Token.structural_append, h.settled.tokens.1]
    · simp only [emitOne, emit]
      rw [Array.any_append]
      simp [Token.isDoctype, TokenForm.isDoctype]

theorem InStep.step_both (h : InStep apartFromSpace first second) (placed : PlacedEvent)
    (hcontent : first.looksBack placed = true →
      first.settled.hasContent = second.settled.hasContent) :
    (first.step placed).fault = (second.step placed).fault ∧
      InStep apartFromSpace (first.step placed).next (second.step placed).next := by
  cases hcomment : placed.event.isComment with
  | false => exact h.step tracks_apartFromSpace placed hcomment hcontent
  | true =>
      obtain ⟨line, event⟩ := placed
      cases event with
      | comment content =>
          refine ⟨rfl, ?_⟩
          simp only [Assembly.step, ← place_congr h.resource]
          exact h.comment_both content _
      | _ => cases hcomment

-- What elements that look back find: whether the sequence has content.
def findings (assembly : Assembly) (events : List PlacedEvent) : List Bool :=
  (assembly.reviewed events).map fun tokens => tokens.any fun token => !token.isDoctype

theorem findings_of_looksBack {assembly : Assembly} {placed : PlacedEvent}
    (hlooks : assembly.looksBack placed = true) (rest : List PlacedEvent) :
    ∃ others, assembly.findings (placed :: rest) = assembly.settled.hasContent :: others := by
  rw [findings, reviewed, if_pos hlooks]
  exact ⟨_, rfl⟩

theorem findings_of_accepted {assembly : Assembly} {placed : PlacedEvent}
    (hfault : (assembly.step placed).fault = none) (rest : List PlacedEvent) :
    assembly.findings (placed :: rest) =
      (if assembly.looksBack placed then [assembly.settled.hasContent] else []) ++
        (assembly.step placed).next.findings rest := by
  rw [findings, reviewed_of_accepted hfault, List.map_append]
  cases assembly.looksBack placed <;> rfl

-- Two runs whose elements find the same are refused for the same fault, or stay in step.
theorem InStep.feed_both {events : List PlacedEvent} (h : InStep apartFromSpace first second)
    (hfindings : first.findings events = second.findings events) :
    (∃ fault, first.feed events = .error fault ∧ second.feed events = .error fault) ∨
      ∃ final other, first.feed events = .ok final ∧ second.feed events = .ok other ∧
        InStep apartFromSpace final other := by
  induction events generalizing first second with
  | nil => exact .inr ⟨first, second, rfl, rfl, h⟩
  | cons placed rest ih =>
      have hlooks := h.looksBack placed
      have hcontent : first.looksBack placed = true →
          first.settled.hasContent = second.settled.hasContent := by
        intro hlook
        obtain ⟨others, hfirst⟩ := findings_of_looksBack hlook rest
        obtain ⟨more, hsecond⟩ := findings_of_looksBack (hlooks ▸ hlook) rest
        rw [hfirst, hsecond] at hfindings
        exact (List.cons.inj hfindings).1
      obtain ⟨hfault, hnext⟩ := h.step_both placed hcontent
      cases hfirst : (first.step placed).fault with
      | some fault =>
          exact .inl ⟨fault, feed_of_fault hfirst rest, feed_of_fault (hfault ▸ hfirst) rest⟩
      | none =>
          have hsecond : (second.step placed).fault = none := hfault ▸ hfirst
          rw [feed_of_no_fault hfirst, feed_of_no_fault hsecond]
          refine ih hnext ?_
          rw [findings_of_accepted hfirst, findings_of_accepted hsecond, ← hlooks] at hfindings
          cases hlook : first.looksBack placed with
          | false => simpa [hlook] using hfindings
          | true =>
              rw [hlook] at hfindings
              exact (List.cons.inj hfindings).2

-- Elements that are accepted without compression have found no content, and find none with it.
theorem InStep.findings_eq {events : List PlacedEvent} {final : Assembly}
    (h : InStep apartFromSpace first second) (haccepted : second.feed events = .ok final) :
    first.findings events = second.findings events := by
  induction events generalizing first second with
  | nil => rfl
  | cons placed rest ih =>
      obtain ⟨hsecond, hrest⟩ := accepted_of_feed haccepted
      have hlooks := h.looksBack placed
      have hcontent : first.looksBack placed = true →
          first.settled.hasContent = second.settled.hasContent := by
        intro hlook
        have hempty := hasContent_of_looksBack (hlooks ▸ hlook) hsecond
        have hless : first.settled.hasContent = true → second.settled.hasContent = true :=
          h.settled.tokens.2
        rw [hempty, Bool.eq_false_iff]
        intro hfull
        rw [hless hfull] at hempty
        cases hempty
      obtain ⟨hfault, hnext⟩ := h.step_both placed hcontent
      have hfirst : (first.step placed).fault = none := hfault.trans hsecond
      rw [findings_of_accepted hfirst, findings_of_accepted hsecond, ih hnext hrest, ← hlooks]
      cases hlook : first.looksBack placed with
      | false => rfl
      | true => rw [hcontent hlook]

theorem InStep.outline_eq (h : InStep apartFromSpace first second) :
    first.template.outline = second.template.outline := by
  have hoverrides := h.settled.overrides
  have htokens : Token.structural first.settled.tokens = Token.structural second.settled.tokens :=
    h.settled.tokens.1
  simp only [template, Template.outline, htokens, h.settled.ids, h.settled.isExtension]
  generalize first.settled.overrides = overrides at hoverrides ⊢
  generalize second.settled.overrides = others at hoverrides ⊢
  cases hoverrides with
  | none => rfl
  | some htables =>
      simp only [Option.map_some]
      congr 2
      rw [← List.forall₂_eq_eq_eq, List.forall₂_map_left_iff, List.forall₂_map_right_iff]
      exact htables.imp fun entry other hboth => Prod.ext hboth.1 hboth.2.1

end Assembly

namespace EventStream

-- White space settings decide on text alone: on the same fault, or else the same outline. It is
-- enough that all elements that look back find the same with compression and without, and for
-- that, that the events are accepted without.
theorem assemble_outline_eq {events : List PlacedEvent} {resource : String}
    (h : (Assembly.start resource true).findings events =
        (Assembly.start resource false).findings events ∨
      ((EventStream.mk events none).assemble resource false).toBool = true) :
    ((EventStream.mk events none).assemble resource true).map Template.outline =
      ((EventStream.mk events none).assemble resource false).map Template.outline := by
  have hstart : Assembly.InStep Assembly.apartFromSpace (Assembly.start resource true)
      (Assembly.start resource false) := Assembly.inStep_start resource fun _ => rfl
  have hfindings : (Assembly.start resource true).findings events =
      (Assembly.start resource false).findings events := by
    rcases h with h | haccepted
    · exact h
    · obtain ⟨template, htemplate⟩ := exists_template haccepted
      obtain ⟨final, hfeed, -⟩ := assemble_ok htemplate
      exact hstart.findings_eq hfeed
  obtain ⟨fault, hfirst, hsecond⟩ | ⟨final, other, hfirst, hsecond, hboth⟩ :=
    hstart.feed_both hfindings
  · simp only [assemble, hfirst, hsecond]
  · simp only [assemble, hfirst, hsecond, Except.map, hboth.outline_eq]

-- An element on lines of its own, with an extension point that has some more.
def spacedElement : List PlacedEvent := [
  ⟨some 1, .text "\n"⟩, ⟨some 2, .elementStart none "div" []⟩, ⟨some 2, .text "\n  "⟩,
  ⟨some 3, .elementStart (some Naming.templateUri51) "extension-point" [⟨none, "id", "a"⟩]⟩,
  ⟨some 3, .text "\n  text  $\x7bname\x7d"⟩, ⟨some 4, .comment "comment"⟩, ⟨some 4, .text "\n"⟩,
  ⟨some 5, .elementEnd (some Naming.templateUri51) "extension-point"⟩, ⟨some 5, .text "\n"⟩,
  ⟨some 6, .elementEnd none "div"⟩, ⟨some 6, .text "\n"⟩]

theorem outline_spacedElement :
    ((EventStream.mk spacedElement none).assemble "T.tml" false).toBool = true ∧
      ((EventStream.mk spacedElement none).assemble "T.tml" true).map Template.outline =
        ((EventStream.mk spacedElement none).assemble "T.tml" false).map Template.outline := by
  have haccepted : ((EventStream.mk spacedElement none).assemble "T.tml" false).toBool = true := by
    decide +kernel
  exact ⟨haccepted, assemble_outline_eq (.inr haccepted)⟩

-- A replacement on a line of its own.
def spacedReplacement : List PlacedEvent := [
  ⟨some 1, .elementStart (some Naming.templateUri51) "extend" []⟩, ⟨some 1, .text "\n"⟩,
  ⟨some 2, .elementStart (some Naming.templateUri51) "replace" [⟨none, "id", "a"⟩]⟩,
  ⟨some 2, .elementEnd (some Naming.templateUri51) "replace"⟩,
  ⟨some 2, .elementEnd (some Naming.templateUri51) "extend"⟩]

-- Without compression the line break in front of a replacement is in its way.
theorem not_outline_spacedReplacement :
    ¬ ∀ (events : List PlacedEvent) (resource : String),
      ((EventStream.mk events none).assemble resource true).map Template.outline =
        ((EventStream.mk events none).assemble resource false).map Template.outline := by
  intro hall
  have hboth := hall spacedReplacement "T.tml"
  obtain ⟨template, haccepted⟩ := exists_template
    (show ((EventStream.mk spacedReplacement none).assemble "T.tml" true).toBool = true by
      decide +kernel)
  have hrefused : ((EventStream.mk spacedReplacement none).assemble "T.tml" false).toBool =
      false := by
    decide +kernel
  rw [haccepted] at hboth
  cases hplain : (EventStream.mk spacedReplacement none).assemble "T.tml" false with
  | error fault => rw [hplain] at hboth; cases hboth
  | ok other => rw [hplain] at hrefused; cases hrefused

end EventStream

end TemplateMarkup
