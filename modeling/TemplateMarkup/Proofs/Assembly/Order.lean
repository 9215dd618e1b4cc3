import TemplateMarkup.Proofs.Assembly.OpenElements
import TemplateMarkup.Proofs.Assembly.Reach
import TemplateMarkup.Proofs.Token.Order

namespace TemplateMarkup

open Token (Above InOrder sourced)

namespace Assembly

-- Whether a document type begins while character data from further up is pending. Its token then
-- comes in front of that character data.
def splitsText (assembly : Assembly) : List PlacedEvent → Bool
  | [] => false
  | placed :: rest =>
    ((placed.event matches .doctypeStart ..) &&
        assembly.pending.any fun pending => !notBelow placed.line pending.location.line) ||
      (assembly.step placed).next.splitsText rest

-- All sequences of an assembly are in order, and above the lines that are still to come. Pending
-- text is below all tokens but document types.
structure Orderly (assembly : Assembly) (split : Bool) (ahead : List (Option Nat)) : Prop where
  active : Above split assembly.tokens ahead
  saved : ∀ scope ∈ assembly.scopes, ∀ id tokens, scope.kind.region? = some (id, tokens) →
    Above split tokens ahead
  overrides : ∀ table, assembly.overrides = some table → ∀ entry ∈ table.toList,
    InOrder split entry.2
  bindings : ∀ token ∈ assembly.bindings, token.isBinding = true
  behind : ∀ pending, assembly.pending = some pending → ∀ token ∈ sourced assembly.tokens,
    notBelow token.location.line pending.location.line = true ∨
      split = true ∧ token.isDoctype = true
  pending : ∀ pending, assembly.pending = some pending → ∀ line ∈ ahead,
    notBelow pending.location.line line = true

variable {assembly next : Assembly} {split : Bool} {line : Option Nat}
  {ahead : List (Option Nat)} {more : Array Token}

theorem Orderly.rest (h : assembly.Orderly split (line :: ahead)) :
    assembly.Orderly split ahead where
  active := h.active.rest
  saved scope hm id tokens hregion := (h.saved scope hm id tokens hregion).rest
  overrides := h.overrides
  bindings := h.bindings
  behind := h.behind
  pending pending hp other hm := h.pending pending hp other (List.mem_cons_of_mem _ hm)

-- Character data stands where it began, behind everything but document types.
theorem Orderly.above_pending {pending : PendingText} (h : assembly.Orderly split ahead)
    (hpending : assembly.pending = some pending)
    (hmore : ∀ token ∈ sourced more, token.location.line = pending.location.line ∧
      token.isCharacterData = true) :
    Above split (assembly.tokens ++ more) ahead := by
  refine h.active.append (Token.above_of_line (fun token hm => (hmore token hm).1)
    (h.pending pending hpending)) ?_
  intro first hf second hs
  obtain ⟨hline, hdata⟩ := hmore second hs
  rw [Token.MayPrecede, hline]
  exact (h.behind pending hpending first hf).imp_right fun hd => ⟨hd.1, hd.2, hdata⟩

theorem Orderly.settled (h : assembly.Orderly split ahead) :
    assembly.settled.Orderly split ahead where
  active := by
    rw [settled_tokens]
    cases hpending : assembly.pending with
    | none => simpa [settlement, hpending] using h.active
    | some pending =>
        refine h.above_pending hpending fun token hm => ?_
        obtain ⟨found, fragment, hfound, rfl⟩ := mem_settlement (Token.mem_sourced_iff.mp hm).1
        rw [hpending] at hfound
        cases hfound
        exact ⟨rfl, by cases fragment <;> rfl⟩
  saved := by
    rw [settled_scopes]
    exact h.saved
  overrides := by
    rw [settled_overrides]
    exact h.overrides
  bindings := by
    rw [settled_bindings]
    exact h.bindings
  behind := by simp
  pending := by simp

-- Tokens of the line that is reached go behind the active sequence, and no region is opened.
theorem Orderly.of_emit (h : assembly.Orderly split (line :: ahead))
    (hlines : Descend (line :: ahead))
    (hmore : ∀ token ∈ sourced more, token.location.line = line)
    (htokens : next.tokens = assembly.tokens ++ more)
    (hscopes : ∀ scope ∈ next.scopes, scope ∈ assembly.scopes ∨ scope.kind.region? = none)
    (hoverrides : next.overrides = assembly.overrides)
    (hbindings : ∀ token ∈ next.bindings, token.isBinding = true)
    (hpending : next.pending = none) : next.Orderly split ahead where
  active := by
    rw [htokens]
    exact h.active.emit hlines hmore
  saved scope hm id tokens hregion := by
    rcases hscopes scope hm with hm | hnone
    · exact (h.saved scope hm id tokens hregion).rest
    · rw [hnone] at hregion
      cases hregion
  overrides := hoverrides ▸ h.overrides
  bindings := hbindings
  behind := by simp [hpending]
  pending := by simp [hpending]

theorem Orderly.setOverride {id : String} {tokens : Array Token}
    (h : assembly.Orderly split ahead) (htokens : InOrder split tokens) :
    (assembly.setOverride id tokens).Orderly split ahead where
  active := h.active
  saved := h.saved
  overrides := forall_override_setOverride (P := InOrder split) h.overrides htokens
  bindings := h.bindings
  behind := h.behind
  pending := h.pending

-- A region puts the active sequence aside and starts an empty one.
theorem Orderly.openRegion {id : String} {saved : Array Token} {kind : ScopeKind}
    {compress : Bool} (h : assembly.Orderly split (line :: ahead))
    (hkind : kind.region? = some (id, saved)) (hsaved : Above split saved ahead)
    (hpending : assembly.pending = none) :
    ({ assembly.setOverride id #[] with tokens := #[] }.pushBare kind compress).Orderly split
      ahead where
  active := Token.above_empty split ahead
  saved scope hm other tokens hregion := by
    rcases List.mem_cons.mp hm with rfl | hm
    · rw [hkind] at hregion
      cases hregion
      exact hsaved
    · exact (h.saved scope hm other tokens hregion).rest
  overrides := (h.setOverride (Token.above_empty split ahead).inOrder).overrides
  bindings := h.bindings
  behind := by simp [pushBare, push, Assembly.setOverride, hpending]
  pending := by simp [pushBare, push, Assembly.setOverride, hpending]

theorem region?_of_push {scope : Scope} {scopes : List Scope} (hkind : scope.kind.region? = none) :
    ∀ other ∈ scope :: scopes, other ∈ scopes ∨ other.kind.region? = none := by
  intro other hm
  rcases List.mem_cons.mp hm with rfl | hm
  · exact .inr hkind
  · exact .inl hm

theorem line_of_mem_singleton {form : TokenForm} {location : Location}
    (hline : location.line = line) :
    ∀ token ∈ sourced #[(⟨form, location⟩ : Token)], token.location.line = line := by
  intro token hm
  rw [Array.mem_singleton.mp (Token.mem_sourced_iff.mp hm).1]
  exact hline

theorem line_of_mem_startTokens {component : Component} {uri element componentType : Option String}
    {attributes : List Attribute} {bindings : Array Token} {location : Location}
    (hread : (Component.ofType componentType).readAll location attributes = .ok component)
    (hbindings : ∀ token ∈ bindings, token.isBinding = true) (hline : location.line = line) :
    ∀ token ∈ sourced (startTokens component uri element bindings location),
      token.location.line = line := by
  intro token hm
  obtain ⟨hm, hbinding⟩ := Token.mem_sourced_iff.mp hm
  simp only [startTokens, Array.mem_append, Array.mem_singleton] at hm
  rcases hm with (rfl | hm) | hm
  · exact hline
  · rw [hbindings token hm] at hbinding
    cases hbinding
  · rcases Component.mem_passed hread hm with hm | ⟨uri, name, value, rfl⟩
    · exact absurd hm (Array.not_mem_empty _)
    · exact hline

theorem Orderly.opening {uri : Option String} {name : String} {attributes : List Attribute}
    {compress : Bool} {location : Location} (h : assembly.Orderly split (line :: ahead))
    (hlines : Descend (line :: ahead)) (hpending : assembly.pending = none)
    (hline : location.line = line)
    (ho : Opening assembly uri name attributes compress location next) :
    next.Orderly split ahead := by
  have hnone : ∀ token ∈ sourced #[], token.location.line = line := by simp [sourced]
  cases ho with
  | output element componentType component ids hrole hread hids =>
      exact h.of_emit hlines (line_of_mem_startTokens hread h.bindings hline) rfl
        (region?_of_push rfl) rfl (by simp) hpending
  | remove | extend | container =>
      exact h.of_emit hlines hnone (Array.append_empty.symm) (region?_of_push rfl) rfl h.bindings
        hpending
  | content hrole hphase =>
      refine ⟨Token.above_empty split ahead, fun scope hm id tokens hregion => ?_, h.overrides,
        h.bindings, by simp [pushBare, push, hpending], by simp [pushBare, push, hpending]⟩
      rcases List.mem_cons.mp hm with rfl | hm
      · cases hregion
      · exact h.rest.saved scope hm id tokens hregion
  | extensionPoint id hrole hid hnested =>
      exact h.openRegion rfl (h.active.emit hlines (line_of_mem_singleton hline)) hpending
  | replace id hrole hid hextension hinside hfirst => exact h.openRegion rfl h.active.rest hpending
  | body | block | parameter | blockParameter =>
      exact h.of_emit hlines (line_of_mem_singleton hline) rfl (region?_of_push rfl) rfl h.bindings
        hpending

theorem Orderly.closing {location : Location} (h : assembly.Orderly split (line :: ahead))
    (hlines : Descend (line :: ahead)) (hpending : assembly.pending = none)
    (hline : location.line = line) (hc : Closing assembly location next) :
    next.Orderly split ahead := by
  have hnone : ∀ token ∈ sourced #[], token.location.line = line := by simp [sourced]
  have hinner : ∀ {scope : Scope} {outer : List Scope}, assembly.scopes = scope :: outer →
      ∀ other ∈ outer, other ∈ assembly.scopes ∨ other.kind.region? = none := by
    intro scope outer hscopes other hm
    exact .inl (by rw [hscopes]; exact List.mem_cons_of_mem _ hm)
  cases hc with
  | stray hscopes => exact h.rest
  | element compress isComponent outer hscopes =>
      exact h.of_emit hlines (line_of_mem_singleton hline) rfl (hinner hscopes) rfl h.bindings
        hpending
  | content compress isComponent outer hscopes =>
      exact h.of_emit hlines hnone (Array.append_empty.symm) (hinner hscopes) rfl h.bindings
        hpending
  | region scope outer id saved hscopes hkind =>
      have hsaved := h.saved scope (by rw [hscopes]; exact List.mem_cons_self) id saved hkind
      have hback : Orderly { assembly with scopes := outer, tokens := saved } split
          (line :: ahead) :=
        { active := hsaved
          saved := fun other hm => h.saved other (by rw [hscopes]; exact List.mem_cons_of_mem _ hm)
          overrides := h.overrides
          bindings := h.bindings
          behind := by simp [hpending]
          pending := h.pending }
      exact (hback.setOverride h.active.inOrder).rest
  | bare scope outer hscopes hkind =>
      exact h.of_emit hlines hnone (Array.append_empty.symm) (hinner hscopes) rfl h.bindings
        hpending

theorem Orderly.gather {text : String} {location : Location}
    (h : assembly.Orderly split (line :: ahead)) (hlines : Descend (line :: ahead))
    (hline : location.line = line) :
    Orderly { assembly with pending := some (assembly.gathered text location) } split ahead := by
  have hbegun : (∀ token ∈ sourced assembly.tokens,
        notBelow token.location.line (assembly.gathered text location).location.line = true ∨
          split = true ∧ token.isDoctype = true) ∧
      ∀ other ∈ ahead, notBelow (assembly.gathered text location).location.line other = true := by
    cases hpending : assembly.pending with
    | none =>
        have hstart : (assembly.gathered text location).location.line = line := by
          simp [gathered, hpending, hline]
        rw [hstart]
        exact ⟨fun token hm => .inl (h.active.above token hm line List.mem_cons_self),
          (List.pairwise_cons.mp hlines).1⟩
    | some pending =>
        have hstart : (assembly.gathered text location).location = pending.location := by
          simp [gathered, hpending]
        rw [hstart]
        exact ⟨h.behind pending hpending, h.rest.pending pending hpending⟩
  have hrest := h.rest
  exact {
    active := hrest.active
    saved := hrest.saved
    overrides := h.overrides
    bindings := h.bindings
    behind := fun pending hp => by
      cases hp
      exact hbegun.1
    pending := fun pending hp => by
      cases hp
      exact hbegun.2 }

theorem Orderly.cdataEnd {pending : PendingText} {location : Location}
    (h : assembly.Orderly split (line :: ahead)) (hlines : Descend (line :: ahead))
    (hline : location.line = line) (hpending : pending = assembly.pending.getD ⟨"", location⟩) :
    Orderly { assembly.emitOne (.cdata pending.text) pending.location with pending := none } split
      ahead := by
  have hactive : Above split
      (assembly.tokens ++ #[(⟨.cdata pending.text, pending.location⟩ : Token)]) ahead := by
    cases hfound : assembly.pending with
    | none =>
        rw [hfound, Option.getD_none] at hpending
        subst hpending
        exact h.active.emit hlines (line_of_mem_singleton hline)
    | some found =>
        rw [hfound, Option.getD_some] at hpending
        subst hpending
        refine h.rest.above_pending hfound fun token hm => ?_
        rw [Array.mem_singleton.mp (Token.mem_sourced_iff.mp hm).1]
        exact ⟨rfl, rfl⟩
  exact ⟨hactive, h.rest.saved, h.overrides, h.bindings, by simp, by simp⟩

-- A document type may stand in front of the pending text, which began above it.
theorem Orderly.doctypeStart {name : String} {publicId systemId : Option String}
    {location : Location} (h : assembly.Orderly split (line :: ahead))
    (hlines : Descend (line :: ahead)) (hline : location.line = line)
    (hsplit : ∀ pending, assembly.pending = some pending →
      notBelow line pending.location.line = true ∨ split = true) :
    (assembly.doctypeStart name publicId systemId location).Orderly split ahead where
  active := h.active.emit hlines (line_of_mem_singleton hline)
  saved := h.rest.saved
  overrides := h.overrides
  bindings := h.bindings
  behind pending hp token hm := by
    simp only [Assembly.doctypeStart, emitOne, emit, Token.sourced_append, List.mem_append] at hm
    rcases hm with hm | hm
    · exact h.behind pending hp token hm
    · rw [line_of_mem_singleton hline token hm]
      refine (hsplit pending hp).imp_right fun hs => ⟨hs, ?_⟩
      rw [Array.mem_singleton.mp (Token.mem_sourced_iff.mp hm).1]
      rfl
  pending := h.rest.pending

theorem Orderly.move {placed : PlacedEvent} (h : assembly.Orderly split (placed.line :: ahead))
    (hlines : Descend (placed.line :: ahead))
    (hsplit : (placed.event matches .doctypeStart ..) = true → ∀ pending,
      assembly.pending = some pending →
        notBelow placed.line pending.location.line = true ∨ split = true)
    (hmove : Move assembly (assembly.place placed.line) placed.event next) :
    next.Orderly split ahead := by
  obtain ⟨line, event⟩ := placed
  cases hmove with
  | pass event hmark htag hprose => exact h.rest
  | bury uri name attributes hphase hdoctype hremoved =>
      have hrest := h.rest
      refine ⟨hrest.active, fun scope hm id tokens hregion => ?_, hrest.overrides, hrest.bindings,
        hrest.behind, hrest.pending⟩
      rcases List.mem_cons.mp hm with rfl | hm
      · cases hregion
      · exact hrest.saved scope hm id tokens hregion
  | start uri name attributes next hphase hdoctype hremoved hplace hopening =>
      exact h.settled.opening hlines (settled_pending _) rfl hopening
  | finish uri name next hphase hdoctype hclosing =>
      exact h.settled.closing hlines (settled_pending _) rfl hclosing
  | gather text pending hidle hbody hpending =>
      subst hpending
      exact h.gather hlines rfl
  | comment text hidle =>
      exact h.settled.of_emit hlines (line_of_mem_singleton rfl) rfl (fun _ hm => .inl hm) rfl
        h.settled.bindings (settled_pending _)
  | cdataStart hidle =>
      have hs := h.settled
      refine ⟨hs.rest.active, hs.rest.saved, hs.overrides, hs.bindings, ?_, ?_⟩
      · intro pending hp token hm
        cases hp
        exact .inl (hs.active.above token hm line List.mem_cons_self)
      · intro pending hp
        cases hp
        exact (List.pairwise_cons.mp hlines).1
  | cdataEnd pending hidle hpending => exact h.cdataEnd hlines rfl hpending
  | doctypeStart name publicId systemId => exact h.doctypeStart hlines rfl (hsplit rfl)
  | doctypeEnd =>
      have hrest := h.rest
      exact ⟨hrest.active, hrest.saved, hrest.overrides, hrest.bindings, hrest.behind,
        hrest.pending⟩
  | bind label uri hidle =>
      have hrest := h.rest
      refine ⟨hrest.active, hrest.saved, hrest.overrides, fun token hm => ?_, hrest.behind,
        hrest.pending⟩
      rcases Array.mem_append.mp hm with hm | hm
      · exact h.bindings token hm
      · rw [Array.mem_singleton.mp hm]
        rfl

theorem orderly_start (resource : String) (compress : Bool) (split : Bool)
    (ahead : List (Option Nat)) : (start resource compress).Orderly split ahead where
  active := Token.above_empty split ahead
  saved := by simp [start]
  overrides := by simp [start]
  bindings := by simp [start]
  behind := by simp [start]
  pending := by simp [start]

theorem orderly_of_feed {resource : String} {compress : Bool} {events : List PlacedEvent}
    {final : Assembly} (h : (start resource compress).feed events = .ok final)
    (hlines : Descend (events.map (·.line))) :
    final.Orderly ((start resource compress).splitsText events) [] := by
  generalize hsplit : (start resource compress).splitsText events = split
  have hrun := feed_induction (motive := fun assembly rest =>
    assembly.Orderly split (rest.map (·.line)) ∧ Descend (rest.map (·.line)) ∧
      (assembly.splitsText rest = true → split = true)) h
    ⟨orderly_start resource compress split _, hlines, fun hs => hsplit ▸ hs⟩ ?_
  · exact hrun.1
  · intro before placed rest hbefore hmove
    obtain ⟨horderly, hdescend, hs⟩ := hbefore
    simp only [splitsText, Bool.or_eq_true] at hs
    refine ⟨horderly.move hdescend (fun hstart pending hp => ?_) hmove,
      (List.pairwise_cons.mp hdescend).2, fun hlater => hs (.inr hlater)⟩
    cases hline : notBelow placed.line pending.location.line with
    | true => exact .inl rfl
    | false => exact .inr (hs (.inl (by simp [hstart, hp, hline])))

end Assembly

namespace EventStream

-- Tokens come out in the order of the source. Where events come in the order of their lines, the
-- tokens of every sequence do so too, bindings apart, but for document types in front of character
-- data. Those are in order as well where no document type begins while character data from further
-- up is pending.
theorem assemble_descends {events : List PlacedEvent} {resource : String} {compress : Bool}
    {template : Template}
    (h : (EventStream.mk events none).assemble resource compress = .ok template)
    (hlines : Descend (events.map (·.line))) :
    (∀ tokens ∈ template.sequences, InOrder true tokens) ∧
      ((Assembly.start resource compress).splitsText events = false →
        ∀ tokens ∈ template.sequences, Descend ((sourced tokens).map (·.location.line))) := by
  obtain ⟨final, hfeed, rfl⟩ := assemble_ok h
  have horderly := (Assembly.orderly_of_feed hfeed hlines).settled
  have hall : ∀ tokens ∈ final.template.sequences,
      InOrder ((Assembly.start resource compress).splitsText events) tokens := by
    intro tokens hm
    rcases List.mem_cons.mp hm with rfl | hm
    · exact horderly.active.inOrder
    · obtain ⟨entry, hentry, rfl⟩ := List.mem_map.mp hm
      change entry ∈ (final.settled.overrides.getD IdTable.empty).toList at hentry
      cases htable : final.settled.overrides with
      | none =>
          rw [htable] at hentry
          cases hentry
      | some table =>
          rw [htable] at hentry
          exact horderly.overrides table htable entry hentry
  refine ⟨fun tokens hm => (hall tokens hm).imp, fun hsplit tokens hm => ?_⟩
  rw [← Token.inOrder_false_iff, ← hsplit]
  exact hall tokens hm

-- A document type behind text of its own line, text over several lines around a replaced region,
-- and a binding that waits for its element.
def severalLines : List PlacedEvent := [
  ⟨some 1, .doctypeStart "html" none none⟩, ⟨some 1, .doctypeEnd⟩, ⟨some 1, .text "\n"⟩,
  ⟨some 2, .binding "u" "urn:u"⟩, ⟨some 3, .elementStart none "div" [⟨none, "class", "c"⟩]⟩,
  ⟨some 3, .text "a\n"⟩, ⟨some 4, .cdataStart⟩, ⟨some 4, .text "b\nc"⟩, ⟨some 5, .cdataEnd⟩,
  ⟨some 5, .elementStart (some Naming.templateUri51) "extension-point" [⟨none, "id", "x"⟩]⟩,
  ⟨some 5, .text "d\n"⟩, ⟨some 6, .comment "e"⟩, ⟨some 6, .text "f$\x7bg\x7d"⟩,
  ⟨some 7, .elementEnd (some Naming.templateUri51) "extension-point"⟩,
  ⟨some 8, .text "h"⟩, ⟨some 9, .elementEnd none "div"⟩]

theorem descends_severalLines :
    ∃ template, (EventStream.mk severalLines none).assemble "T.tml" false = .ok template ∧
      Descend (severalLines.map (·.line)) ∧
      (Assembly.start "T.tml" false).splitsText severalLines = false ∧
      (∀ tokens ∈ template.sequences, InOrder true tokens) ∧
      ((Assembly.start "T.tml" false).splitsText severalLines = false →
        ∀ tokens ∈ template.sequences, Descend ((sourced tokens).map (·.location.line))) := by
  obtain ⟨template, h⟩ := exists_template
    (show ((EventStream.mk severalLines none).assemble "T.tml" false).toBool = true by
      decide +kernel)
  exact ⟨template, h, by decide, by decide +kernel, assemble_descends h (by decide)⟩

-- White space in front of a document type, as an XML declaration on the first line leaves it.
def textAroundDoctype : List PlacedEvent := [
  ⟨some 1, .text "\n"⟩, ⟨some 2, .doctypeStart "html" none none⟩, ⟨some 2, .doctypeEnd⟩,
  ⟨some 2, .text "\n"⟩, ⟨some 3, .elementStart none "p" []⟩, ⟨some 3, .elementEnd none "p"⟩]

-- Text that began above a document type may come out behind it.
theorem not_descends_textAroundDoctype :
    ¬ ∀ (events : List PlacedEvent) (resource : String) (compress : Bool) (template : Template),
      (EventStream.mk events none).assemble resource compress = .ok template →
      Descend (events.map (·.line)) → elementsClosed events = true →
      ∀ tokens ∈ template.sequences, Descend ((sourced tokens).map (·.location.line)) := by
  intro hall
  obtain ⟨template, h⟩ := exists_template
    (show ((EventStream.mk textAroundDoctype none).assemble "T.tml" false).toBool = true by
      decide +kernel)
  have hmain := hall textAroundDoctype "T.tml" false template h (by decide) (by decide)
    template.tokens List.mem_cons_self
  have hlines : ((EventStream.mk textAroundDoctype none).assemble "T.tml" false).toOption.map
      (fun found => (sourced found.tokens).map (·.location.line)) =
        some [some 2, some 1, some 3, some 3] := by
    decide +kernel
  rw [h, Except.toOption, Option.map_some, Option.some.injEq] at hlines
  rw [hlines] at hmain
  exact absurd hmain (by decide)

end EventStream

end TemplateMarkup
