import TemplateMarkup.Proofs.Assembly.Abreast

namespace TemplateMarkup

def TokenForm.isComment : TokenForm → Bool
  | .comment _ => true
  | _ => false

def Token.isComment (token : Token) : Bool :=
  token.form.isComment

def withoutComments (events : List PlacedEvent) : List PlacedEvent :=
  events.filter fun placed => !placed.event.isComment

theorem Token.isSubstance_eq (token : Token) :
    token.form.isSubstance = (!token.isDoctype && !token.isComment) := by
  obtain ⟨form, location⟩ := token
  cases form <;> rfl

theorem Token.any_isSubstance_imp {tokens : Array Token}
    (h : tokens.any (·.form.isSubstance) = true) :
    tokens.any (fun token => !token.isDoctype) = true := by
  obtain ⟨token, hm, hsubstance⟩ := Array.any_eq_true'.mp h
  rw [Token.isSubstance_eq, Bool.and_eq_true] at hsubstance
  exact Array.any_eq_true'.mpr ⟨token, hm, hsubstance.1⟩

namespace Assembly

-- Of a run with comments and one without them: a sequence of the first holds more than document
-- types and comments exactly when the one of the second holds more than document types. The
-- pending texts differ, because a comment settles the text before it.
def apartFromComments : Likeness where
  sequences tokens others :=
    tokens.any (·.form.isSubstance) = others.any fun token => !token.isDoctype
  settings compress setting := compress = setting
  texts _ _ := True
  empty := by simp
  append tokens others more h hmore := by
    rw [Array.any_append, Array.any_append, h, hmore, Token.any_isSubstance_imp hmore]
  same _ := rfl
  unchanged _ := trivial

variable {first second : Assembly}

theorem isSubstance_fragment (fragment : Text.Fragment) (location : Location) :
    (⟨fragmentForm fragment, location⟩ : Token).form.isSubstance = true := by
  cases fragment <;> rfl

theorem InStep.any_isSubstance (h : InStep apartFromComments first second) :
    first.settled.tokens.any (·.form.isSubstance) =
      second.settled.tokens.any fun token => !token.isDoctype :=
  h.settled.tokens

theorem tracks_apartFromComments : apartFromComments.Tracks where
  gather := by
    intro first second h text location
    refine ⟨?_, trivial⟩
    have hshows : shows first.compressing text = shows second.compressing text :=
      congrArg (shows · text) h.compressing
    change Array.any _ _ = Array.any _ _
    rw [any_settled_gathered isSubstance_fragment, any_settled_gathered isDoctype_fragment,
      h.any_isSubstance, hshows]
  cdata := by
    intro first second h location
    change Array.any _ _ = Array.any _ _
    rw [Array.any_append, Array.any_append]
    simp [sectionToken, TokenForm.isSubstance, Token.isDoctype, TokenForm.isDoctype]
  doctype := by
    intro first second h token htoken
    have hsubstance : token.form.isSubstance = false := by
      rw [Token.isSubstance_eq, htoken]
      rfl
    change Array.any _ _ = Array.any _ _
    rw [any_settled_emit isSubstance_fragment, any_settled_emit isDoctype_fragment,
      h.any_isSubstance, hsubstance, htoken]
    rfl

-- A comment settles the pending text of the first run, which keeps what the sequence holds.
theorem InStep.comment (h : InStep apartFromComments first second) (content : String)
    (location : Location) : InStep apartFromComments (first.comment content location) second := by
  unfold Assembly.comment
  split
  · exact h
  · refine h.retext ((retexts_settled first).replaced _ _) rfl ?_ trivial
    change Array.any _ _ = Array.any _ _
    rw [← h.any_isSubstance, emitOne, any_settled_emit isSubstance_fragment, settled_settled]
    simp [TokenForm.isSubstance]

-- Where no comment is, both runs find the same content.
theorem InStep.hasContent_eq (h : InStep apartFromComments first second)
    (hnone : ∀ token ∈ first.settled.tokens, token.isComment = false) :
    first.settled.hasContent = second.settled.hasContent := by
  rw [hasContent, hasContent, ← h.any_isSubstance, Bool.eq_iff_iff, Array.any_eq_true',
    Array.any_eq_true']
  constructor
  · rintro ⟨token, hm, hcontent⟩
    refine ⟨token, hm, ?_⟩
    rw [Token.isSubstance_eq, hnone token hm, hcontent]
    rfl
  · rintro ⟨token, hm, hsubstance⟩
    rw [Token.isSubstance_eq, Bool.and_eq_true] at hsubstance
    exact ⟨token, hm, hsubstance.1⟩

theorem hasContent_of_comment {assembly : Assembly} {token : Token} (hm : token ∈ assembly.tokens)
    (hcomment : token.isComment = true) : assembly.hasContent = true := by
  refine Array.any_eq_true'.mpr ⟨token, hm, ?_⟩
  obtain ⟨form, location⟩ := token
  cases form <;> first | rfl | cases hcomment

-- An element that looks back at a comment is refused.
theorem refused_of_comment {assembly : Assembly} {placed : PlacedEvent} {token : Token}
    (hlooks : assembly.looksBack placed = true) (hm : token ∈ assembly.settled.tokens)
    (hcomment : token.isComment = true) : ∃ fault, (assembly.step placed).fault = some fault := by
  cases hfault : (assembly.step placed).fault with
  | some fault => exact ⟨fault, rfl⟩
  | none =>
      have hempty := hasContent_of_looksBack hlooks hfault
      rw [hasContent_of_comment hm hcomment] at hempty
      cases hempty

-- The run with comments gets through exactly when the run without them does and no element looks
-- back at a comment.
theorem InStep.accepts_iff (h : InStep apartFromComments first second)
    (events : List PlacedEvent) :
    (first.feed events).toBool = true ↔
      (second.feed (withoutComments events)).toBool = true ∧
        ∀ tokens ∈ first.reviewed events, ∀ token ∈ tokens, token.isComment = false := by
  induction events generalizing first second with
  | nil => simp [feed, withoutComments, reviewed, Except.toBool]
  | cons placed rest ih =>
      cases hcomment : placed.event.isComment with
      | true =>
          obtain ⟨line, event⟩ := placed
          cases event with
          | comment content =>
              rw [withoutComments, List.filter_cons_of_neg (by simp [hcomment]),
                feed_of_no_fault rfl, reviewed_of_accepted rfl]
              exact ih (h.comment content _)
          | _ => cases hcomment
      | false =>
          rw [withoutComments, List.filter_cons_of_pos (by simp [hcomment])]
          by_cases hnone : first.looksBack placed = true →
              ∀ token ∈ first.settled.tokens, token.isComment = false
          · obtain ⟨hfault, hnext⟩ := h.step tracks_apartFromComments placed hcomment
              fun hlooks => h.hasContent_eq (hnone hlooks)
            cases hfirst : (first.step placed).fault with
            | some fault =>
                rw [feed_of_fault hfirst, feed_of_fault (hfault ▸ hfirst)]
                simp [Except.toBool]
            | none =>
                rw [feed_of_no_fault hfirst, feed_of_no_fault (hfault ▸ hfirst),
                  reviewed_of_accepted hfirst, ih hnext]
                refine and_congr_right fun _ => ?_
                cases hlooks : first.looksBack placed with
                | false => rfl
                | true => simpa using fun _ => hnone hlooks
          · simp only [Classical.not_imp, not_forall, Bool.not_eq_false] at hnone
            obtain ⟨hlooks, token, hm, htoken⟩ := hnone
            obtain ⟨fault, hfault⟩ := refused_of_comment hlooks hm htoken
            rw [feed_of_fault hfault, reviewed_of_refused hfault, if_pos hlooks]
            refine iff_of_false (by simp [Except.toBool]) fun hboth => ?_
            rw [hboth.2 _ List.mem_cons_self token hm] at htoken
            cases htoken

end Assembly

namespace EventStream

theorem toBool_assemble (events : List PlacedEvent) (resource : String) (compress : Bool) :
    ((EventStream.mk events none).assemble resource compress).toBool =
      ((Assembly.start resource compress).feed events).toBool := by
  simp only [assemble]
  cases (Assembly.start resource compress).feed events <;> rfl

-- Events are accepted exactly when they are without their comments and no `<extend>`,
-- `<container>` or `<replace>`, which look back at the sequence so far, finds a comment in it.
theorem assemble_withoutComments_iff (events : List PlacedEvent) (resource : String)
    (compress : Bool) :
    ((EventStream.mk events none).assemble resource compress).toBool = true ↔
      ((EventStream.mk (withoutComments events) none).assemble resource compress).toBool = true ∧
        ∀ tokens ∈ (Assembly.start resource compress).reviewed events, ∀ token ∈ tokens,
          token.isComment = false := by
  rw [toBool_assemble, toBool_assemble]
  exact (Assembly.inStep_start resource rfl).accepts_iff events

-- A comment in front of an `<extend>`.
def commentedExtend : List PlacedEvent := [
  ⟨some 1, .comment "comment"⟩, ⟨some 1, .elementStart (some Naming.templateUri51) "extend" []⟩,
  ⟨some 1, .elementEnd (some Naming.templateUri51) "extend"⟩]

-- A comment may be in the way of an `<extend>`.
theorem not_accepts_commentedExtend :
    ¬ ∀ (events : List PlacedEvent) (resource : String) (compress : Bool),
      ((EventStream.mk events none).assemble resource compress).toBool = true ↔
        ((EventStream.mk (withoutComments events) none).assemble resource compress).toBool =
          true := by
  intro hall
  have haccepted := (hall commentedExtend "T.tml" true).mpr (by decide +kernel)
  have hrefused : ((EventStream.mk commentedExtend none).assemble "T.tml" true).toBool = false := by
    decide +kernel
  rw [hrefused] at haccepted
  cases haccepted

end EventStream

end TemplateMarkup
