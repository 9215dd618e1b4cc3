import TemplateMarkup.Proofs.Entities.Names
import TemplateMarkup.Proofs.Markup.Replacement

namespace TemplateMarkup.Markup

open Reference (Denotes Replaced endsBody)

-- A stretch of an attribute value as it is reported. Carriage return and line feed together, each
-- of the two alone, and each tab turn into one space.
def spaced : List Char → List Char
  | '\r' :: '\n' :: rest => ' ' :: spaced rest
  | c :: rest => (if c = '\r' || c = '\n' || c = '\t' then ' ' else c) :: spaced rest
  | [] => []

-- A value as it is written and what it says. Stretches without an ampersand are reported with
-- spaces for their white space, and references as what they stand for.
inductive Says (entity? : String → Option String) : List Char → List Char → Prop
  | stretch {stretch : List Char} : '&' ∉ stretch → Says entity? stretch (spaced stretch)
  | reference {stretch body text rest value : List Char} : '&' ∉ stretch →
      (∀ c ∈ body, endsBody c = false) → Denotes entity? body text → Says entity? rest value →
      Says entity? (stretch ++ '&' :: (body ++ ';' :: rest)) (spaced stretch ++ (text ++ value))

section Spacing

theorem normalizeValue_eq_spaced (raw : List Char) : normalizeValue raw = spaced raw := by
  unfold normalizeValue
  fun_induction joinLineEnds raw with
  | case1 rest ih => rw [List.map_cons, ih, spaced]; rfl
  | case2 c rest hpair ih =>
      rw [List.map_cons, ih, spaced]
      · simp [or_comm, or_left_comm]
      · exact hpair
  | case3 => rfl

-- A character that is no white space keeps what stands before it and behind it apart.
theorem spaced_append_cons {c : Char} (hc : c ≠ '\r' ∧ c ≠ '\n' ∧ c ≠ '\t')
    (front rest : List Char) : spaced (front ++ c :: rest) = spaced front ++ c :: spaced rest := by
  fun_induction spaced front with
  | case1 front ih => rw [List.cons_append, List.cons_append, spaced, ih]; rfl
  | case2 d front hpair ih =>
      rw [List.cons_append, spaced, ih]
      · rfl
      · rintro more rfl hmore
        cases front with
        | nil => exact hc.2.1 (List.cons.inj hmore).1
        | cons e front => exact hpair front rfl (by rw [(List.cons.inj hmore).1])
  | case3 =>
      rw [List.nil_append, spaced]
      · simp [hc]
      · rintro more rfl
        exact absurd rfl hc.1

theorem notMem_spaced {c : Char} (hc : c ≠ ' ') {raw : List Char} (h : c ∉ raw) :
    c ∉ spaced raw := by
  fun_induction spaced raw with
  | case1 rest ih => simp_all
  | case2 d rest hpair ih =>
      simp only [List.mem_cons, not_or] at h ⊢
      refine ⟨?_, ih h.2⟩
      split
      · exact hc
      · exact h.1
  | case3 => exact h

-- Where no space comes out, no white space was put in.
theorem spaced_eq_self {raw : List Char} (h : ' ' ∉ spaced raw) : spaced raw = raw := by
  fun_induction spaced raw with
  | case1 rest ih => simp at h
  | case2 d rest hpair ih =>
      simp only [List.mem_cons, not_or] at h
      split at h
      · exact absurd rfl h.1
      · rename_i hplain
        rw [if_neg hplain, ih h.2]
  | case3 => rfl

theorem spaced_of_notBlank {raw : List Char} (h : ∀ c ∈ raw, Dtd.isBlankChar c = false) :
    spaced raw = raw := by
  have hnot : ∀ c, Dtd.isBlankChar c = true → c ∉ raw := by
    intro c hc hm
    rw [h c hm] at hc
    cases hc
  rw [← normalizeValue_eq_spaced]
  exact normalizeValue_eq_self (hnot _ (by decide)) (hnot _ (by decide)) (hnot _ (by decide))

end Spacing

section References

variable {entity? : String → Option String}

theorem digit?_of_isBlankChar {c : Char} (h : Dtd.isBlankChar c = true) (radix : Nat) :
    Reference.digit? radix c = none := by
  simp only [Dtd.isBlankChar, Bool.or_eq_true, decide_eq_true_eq] at h
  rcases h with ((rfl | rfl) | rfl) | rfl <;> rfl

theorem readDigits_cons (radix number : Nat) (c : Char) (rest : List Char) :
    Reference.readDigits radix number (c :: rest) =
      match Reference.digit? radix c with
      | none => .error .invalidDigit
      | some d =>
          if number * radix + d < Nat.pow 2 32 then
            Reference.readDigits radix (number * radix + d) rest
          else .error .tooLarge := rfl

theorem notBlank_of_readDigits {radix number code : Nat} {digits : List Char}
    (h : Reference.readDigits radix number digits = .ok code) :
    ∀ c ∈ digits, Dtd.isBlankChar c = false := by
  induction digits generalizing number with
  | nil => simp
  | cons c rest ih =>
      rw [readDigits_cons] at h
      cases hdigit : Reference.digit? radix c with
      | none => rw [hdigit] at h; cases h
      | some d =>
          rw [hdigit] at h
          dsimp only at h
          split at h
          · rintro e (_ | he)
            · by_contra hblank
              rw [digit?_of_isBlankChar (by simpa using hblank)] at hdigit
              cases hdigit
            · exact ih h e (by assumption)
          · cases h

theorem notBlank_of_readNumber {radix code : Nat} {digits : List Char}
    (h : Reference.readNumber radix digits = .ok code) :
    ∀ c ∈ digits, Dtd.isBlankChar c = false := by
  unfold Reference.readNumber at h
  split at h
  · cases h
  · split at h
    · cases h
    · exact notBlank_of_readDigits h

theorem notBlank_of_character {digits : List Char} {c : Char}
    (h : Reference.character digits = .ok c) : ∀ d ∈ digits, Dtd.isBlankChar d = false := by
  unfold Reference.character at h
  dsimp only at h
  split at h
  · cases h
  · rename_i hnumber
    split at hnumber
    · rintro d (_ | hd)
      · rfl
      · exact notBlank_of_readNumber hnumber d (by assumption)
    · exact notBlank_of_readNumber hnumber

theorem mem_of_predefined? {name text : String} (h : Reference.predefined? name = some text) :
    name ∈ ["lt", "gt", "amp", "apos", "quot"] := by
  unfold Reference.predefined? at h
  grind

-- The text between the marks of a reference that stands for something has no white space.
theorem notBlank_of_denotes {body text : List Char} (h : Denotes entity? body text)
    (hwords : ∀ name value, entity? name = some value → Dtd.IsWord name) :
    ∀ c ∈ body, Dtd.isBlankChar c = false := by
  cases h with
  | character hc =>
      rintro d (_ | hd)
      · rfl
      · exact notBlank_of_character hc d (by assumption)
  | predefined hhead hpredefined =>
      have hbody := mem_of_predefined? hpredefined
      intro c hc
      have hall : ∀ name ∈ ["lt", "gt", "amp", "apos", "quot"],
          name.toList.all (!Dtd.isBlankChar ·) = true := by decide
      have hname := List.all_eq_true.mp (hall _ hbody) c (by simpa using hc)
      simpa using hname
  | @declared _ value hhead hnone hentity =>
      intro c hc
      exact Dtd.not_isBlankChar_of_isNameChar (hwords _ _ hentity c (by simpa using hc))

-- A text is cut at its first mark in one way.
theorem eq_of_append_cons_eq {mark : Char} {first second rest more : List Char}
    (hfirst : mark ∉ first) (hsecond : mark ∉ second)
    (h : first ++ mark :: rest = second ++ mark :: more) : first = second ∧ rest = more := by
  obtain ⟨htake, hdrop⟩ :=
    takeWhile_dropWhile_append first (mark :: rest) (bne_of_notMem hfirst) (by simp)
  obtain ⟨htaken, hdropped⟩ :=
    takeWhile_dropWhile_append second (mark :: more) (bne_of_notMem hsecond) (by simp)
  rw [h] at htake hdrop
  exact ⟨htake.symm.trans htaken, (List.cons.inj (hdrop.symm.trans hdropped)).2⟩

theorem exists_of_replaced_plain {c : Char} (hc : c ≠ '&') {tail result : List Char}
    (h : Replaced entity? (c :: tail) result) :
    ∃ value, result = c :: value ∧ Replaced entity? tail value := by
  cases h with
  | plain _ h => exact ⟨_, rfl, h⟩
  | reference => exact absurd rfl hc

theorem exists_of_replaced_reference {tail result : List Char}
    (h : Replaced entity? ('&' :: tail) result) :
    ∃ body rest text value, tail = body ++ ';' :: rest ∧ (∀ c ∈ body, endsBody c = false) ∧
      Denotes entity? body text ∧ result = text ++ value ∧ Replaced entity? rest value := by
  cases h with
  | plain hc => exact absurd rfl hc
  | reference hbody hdenotes hrest => exact ⟨_, _, _, _, rfl, hbody, hdenotes, rfl, hrest⟩

theorem replaced_append {front rest value : List Char} (hfront : '&' ∉ front)
    (h : Replaced entity? rest value) : Replaced entity? (front ++ rest) (front ++ value) := by
  induction front with
  | nil => exact h
  | cons c front ih =>
      rw [List.mem_cons, not_or] at hfront
      exact .plain (Ne.symm hfront.1) (ih hfront.2)

theorem replaced_append_iff {front rest result : List Char} (hfront : '&' ∉ front) :
    Replaced entity? (front ++ rest) result ↔
      ∃ value, result = front ++ value ∧ Replaced entity? rest value := by
  constructor
  · intro h
    induction front generalizing result with
    | nil => exact ⟨result, rfl, h⟩
    | cons c front ih =>
        rw [List.mem_cons, not_or] at hfront
        obtain ⟨next, rfl, hnext⟩ := exists_of_replaced_plain (Ne.symm hfront.1) h
        obtain ⟨value, rfl, hvalue⟩ := ih hfront.2 hnext
        exact ⟨value, rfl, hvalue⟩
  · rintro ⟨value, rfl, h⟩
    exact replaced_append hfront h

variable (hwords : ∀ name value, entity? name = some value → Dtd.IsWord name)

include hwords

theorem Says.replaced {raw value : List Char} (h : Says entity? raw value) :
    Replaced entity? (spaced raw) value := by
  induction h with
  | @stretch stretch hplain =>
      have hspaced := notMem_spaced (show '&' ≠ ' ' by decide) hplain
      rw [← List.append_nil (spaced stretch)]
      exact replaced_append hspaced .nil
  | @reference stretch body text rest value hplain hbody hdenotes _ ih =>
      have hspaced := notMem_spaced (show '&' ≠ ' ' by decide) hplain
      rw [spaced_append_cons (by decide), spaced_append_cons (by decide),
        spaced_of_notBlank (notBlank_of_denotes hdenotes hwords)]
      exact replaced_append hspaced (.reference hbody hdenotes ih)

-- Whatever a value comes to when white space is replaced everywhere first, is what its stretches
-- and references say.
theorem says_of_replaced {raw value : List Char} (h : Replaced entity? (spaced raw) value) :
    Says entity? raw value := by
  by_cases hamp : '&' ∈ raw
  · obtain ⟨stretch, tail, rfl, hstretch⟩ := List.eq_append_cons_of_mem hamp
    rw [spaced_append_cons (by decide)] at h
    obtain ⟨result, rfl, hresult⟩ :=
      (replaced_append_iff (notMem_spaced (show '&' ≠ ' ' by decide) hstretch)).mp h
    obtain ⟨body, rest, text, value, htail, hbody, hdenotes, rfl, hrest⟩ :=
      exists_of_replaced_reference hresult
    have hblank := notBlank_of_denotes hdenotes hwords
    have hend : ';' ∉ body := fun hm => absurd (hbody ';' hm) (by decide)
    have hspace : ' ' ∉ body := fun hm => absurd (hblank ' ' hm) (by decide)
    have hmark : ';' ∈ tail := by
      by_contra hnone
      refine notMem_spaced (show ';' ≠ ' ' by decide) hnone ?_
      rw [htail]
      simp
    obtain ⟨inner, behind, rfl, hinner⟩ := List.eq_append_cons_of_mem hmark
    rw [spaced_append_cons (by decide)] at htail
    obtain ⟨rfl, rfl⟩ := eq_of_append_cons_eq (notMem_spaced (by decide) hinner) hend htail
    rw [spaced_eq_self hspace] at hbody hdenotes
    exact .reference hstretch hbody hdenotes (says_of_replaced hrest)
  · have hplain := notMem_spaced (show '&' ≠ ' ' by decide) hamp
    rw [← List.append_nil (spaced raw)] at h
    obtain ⟨rest, rfl, hrest⟩ := (replaced_append_iff hplain).mp h
    cases hrest
    rw [List.append_nil]
    exact .stretch hamp
termination_by raw.length
decreasing_by simp [*]; omega

theorem expand_normalizeValue_iff {raw : List Char} {value : String} :
    Reference.expand entity? (String.ofList (normalizeValue raw)) = .ok value ↔
      Says entity? raw value.toList := by
  rw [Reference.expand_eq_ok_iff, String.toList_ofList, normalizeValue_eq_spaced]
  exact ⟨says_of_replaced hwords, Says.replaced hwords⟩

end References

end TemplateMarkup.Markup
