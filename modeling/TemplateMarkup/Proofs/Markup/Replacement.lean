import Mathlib.Data.List.TakeWhile
import TemplateMarkup.Proofs.Markup.Escape

namespace TemplateMarkup.Reference

open Markup (expandFrom_reference standsFor_self takeWhile_dropWhile_append)

-- What a reference stands for, by the text between its marks. Predefined entities cannot be
-- declared again.
inductive Denotes (entity? : String → Option String) : List Char → List Char → Prop
  | character {digits : List Char} {c : Char} :
      character digits = .ok c → Denotes entity? ('#' :: digits) [c]
  | predefined {body : List Char} {text : String} : body.head? ≠ some '#' →
      predefined? (String.ofList body) = some text → Denotes entity? body text.toList
  | declared {body : List Char} {text : String} : body.head? ≠ some '#' →
      predefined? (String.ofList body) = none → entity? (String.ofList body) = some text →
      Denotes entity? body text.toList

-- A text and what it comes to when every reference in it is replaced by what it stands for.
inductive Replaced (entity? : String → Option String) : List Char → List Char → Prop
  | nil : Replaced entity? [] []
  | plain {c : Char} {rest result : List Char} : c ≠ '&' → Replaced entity? rest result →
      Replaced entity? (c :: rest) (c :: result)
  | reference {body rest text result : List Char} : (∀ c ∈ body, endsBody c = false) →
      Denotes entity? body text → Replaced entity? rest result →
      Replaced entity? ('&' :: (body ++ ';' :: rest)) (text ++ result)

variable {entity? : String → Option String}

theorem replacement_eq_ok_iff {start : Nat} {body text : List Char} :
    replacement entity? start body = .ok text ↔ Denotes entity? body text := by
  constructor
  · intro h
    unfold replacement at h
    split at h
    · split at h
      · rename_i c hc
        cases h
        exact .character hc
      · cases h
    · rename_i hbody
      have hhead : body.head? ≠ some '#' := by
        intro hhead
        obtain ⟨digits, rfl⟩ := List.head?_eq_some_iff.mp hhead
        exact hbody digits rfl
      dsimp only at h
      cases hpredefined : predefined? (String.ofList body) with
      | some found =>
          rw [hpredefined, Option.some_or] at h
          cases h
          exact .predefined hhead hpredefined
      | none =>
          rw [hpredefined, Option.none_or] at h
          cases hentity : entity? (String.ofList body) with
          | some found =>
              rw [hentity] at h
              cases h
              exact .declared hhead hpredefined hentity
          | none =>
              rw [hentity] at h
              cases h
  · intro h
    cases h with
    | character hc => simp only [replacement, hc]
    | predefined hhead hpredefined =>
        rw [replacement]
        · simp only [hpredefined, Option.some_or]
        · rintro digits rfl
          exact hhead rfl
    | declared hhead hpredefined hentity =>
        rw [replacement]
        · simp only [hpredefined, Option.none_or, hentity]
        · rintro digits rfl
          exact hhead rfl

theorem expandFrom_of_replaced {text result : List Char} (h : Replaced entity? text result)
    (total start : Nat) : expandFrom entity? total start text = .ok result := by
  induction h generalizing start with
  | nil => rw [expandFrom]
  | @plain c rest result hc _ ih =>
      obtain ⟨next, hnext⟩ := standsFor_self hc total start rest
      rw [List.singleton_append] at hnext
      rw [hnext, ih next]
      rfl
  | @reference body rest text result hbody hdenotes _ ih =>
      have hname : ∀ c ∈ body, (!endsBody c) = true := by
        intro c hc
        rw [hbody c hc]
        rfl
      obtain ⟨next, hnext⟩ :=
        expandFrom_reference hname (replacement_eq_ok_iff.mpr hdenotes) total rest
      rw [hnext, ih next]
      rfl

theorem replaced_of_expandFrom {total start : Nat} {text result : List Char}
    (h : expandFrom entity? total start text = .ok result) : Replaced entity? text result := by
  fun_induction expandFrom entity? total start text generalizing result with
  | case1 =>
      cases h
      exact .nil
  | case2 => cases h
  | case3 => cases h
  | case4 start tail body after hafter replaced hreplaced expanded hexpanded =>
      rename_i ih
      cases h
      have htail : tail = body ++ ';' :: after := by
        rw [← hafter]
        exact List.takeWhile_append_dropWhile.symm
      have hbody : ∀ c ∈ body, endsBody c = false := by
        intro c hc
        simpa using List.mem_takeWhile_imp hc
      rw [htail]
      exact .reference hbody (replacement_eq_ok_iff.mp hreplaced) (ih hexpanded)
  | case5 => cases h
  | case6 => cases h
  | case7 start c tail hc expanded hexpanded ih =>
      cases h
      exact .plain hc (ih hexpanded)

-- A text can be expanded when all its references stand for something, and to nothing else.
theorem expand_eq_ok_iff {text result : String} :
    expand entity? text = .ok result ↔ Replaced entity? text.toList result.toList := by
  unfold expand
  constructor
  · intro h
    cases hexpanded : expandFrom entity? (byteCount text.toList) 0 text.toList with
    | error fault =>
        rw [hexpanded] at h
        cases h
    | ok expanded =>
        rw [hexpanded] at h
        cases h
        rw [String.toList_ofList]
        exact replaced_of_expandFrom hexpanded
  · intro h
    rw [expandFrom_of_replaced h]
    simp only [String.ofList_toList]

-- A reference to an entity, predefined ones apart, comes in a text.
structure Mentions (text : List Char) (name : String) : Prop where
  place : ∃ before after, text = before ++ '&' :: (name.toList ++ ';' :: after)
  body : ∀ c ∈ name.toList, endsBody c = false
  head : name.toList.head? ≠ some '#'
  not_predefined : predefined? name = none

theorem Mentions.append {text : List Char} {name : String} (h : Mentions text name)
    (front : List Char) : Mentions (front ++ text) name := by
  obtain ⟨before, after, rfl⟩ := h.place
  exact ⟨⟨front ++ before, after, (List.append_assoc _ _ _).symm⟩, h.body, h.head,
    h.not_predefined⟩

theorem mentions_reference {body : List Char} (hbody : ∀ c ∈ body, endsBody c = false)
    (hhead : body.head? ≠ some '#') (hnone : predefined? (String.ofList body) = none)
    (rest : List Char) : Mentions ('&' :: (body ++ ';' :: rest)) (String.ofList body) := by
  refine ⟨⟨[], rest, ?_⟩, ?_, ?_, hnone⟩
  · rw [String.toList_ofList, List.nil_append]
  · rw [String.toList_ofList]
    exact hbody
  · rw [String.toList_ofList]
    exact hhead

theorem denotes_congr {other? : String → Option String} {body text rest : List Char}
    (hbody : ∀ c ∈ body, endsBody c = false) (h : Denotes entity? body text)
    (hsame : ∀ name, Mentions ('&' :: (body ++ ';' :: rest)) name → entity? name = other? name) :
    Denotes other? body text := by
  cases h with
  | character hc => exact .character hc
  | predefined hhead hpredefined => exact .predefined hhead hpredefined
  | declared hhead hnone hentity =>
      refine .declared hhead hnone ?_
      rw [← hsame _ (mentions_reference hbody hhead hnone rest)]
      exact hentity

-- What a text comes to depends on the entities that it mentions, and on no others.
theorem Replaced.congr {other? : String → Option String} {text result : List Char}
    (h : Replaced entity? text result)
    (hsame : ∀ name, Mentions text name → entity? name = other? name) :
    Replaced other? text result := by
  induction h with
  | nil => exact .nil
  | @plain c rest result hc _ ih =>
      exact .plain hc (ih fun name hname => hsame name (hname.append [c]))
  | @reference body rest text result hbody hdenotes _ ih =>
      refine .reference hbody (denotes_congr hbody hdenotes hsame) (ih fun name hname => ?_)
      apply hsame
      have hback := hname.append ('&' :: (body ++ [';']))
      rwa [List.cons_append, List.append_assoc, List.singleton_append] at hback

-- An ampersand that is not in front begins a reference further on.
theorem Mentions.of_cons {c : Char} {text : List Char} {name : String}
    (h : Mentions (c :: text) name) (hc : c ≠ '&') : Mentions text name := by
  obtain ⟨before, after, hplace⟩ := h.place
  cases before with
  | nil => exact absurd (List.cons.inj hplace).1 hc
  | cons d before => exact ⟨⟨before, after, (List.cons.inj hplace).2⟩, h.body, h.head,
      h.not_predefined⟩

-- Behind the ampersand of a reference, the next one is behind its end.
theorem Mentions.of_reference {body rest : List Char} {name : String}
    (h : Mentions ('&' :: (body ++ ';' :: rest)) name) (hbody : ∀ c ∈ body, endsBody c = false) :
    name.toList = body ∨ Mentions rest name := by
  obtain ⟨before, after, hplace⟩ := h.place
  cases before with
  | nil =>
      have hinside : body ++ ';' :: rest = name.toList ++ ';' :: after := (List.cons.inj hplace).2
      have htake : ∀ letters behind, (∀ c ∈ letters, endsBody c = false) →
          (letters ++ ';' :: behind).takeWhile (!endsBody ·) = letters := by
        intro letters behind hletters
        have hinner : ∀ c ∈ letters, (!endsBody c) = true := fun c hc => by rw [hletters c hc]; rfl
        exact (takeWhile_dropWhile_append letters (';' :: behind) hinner (by simp [endsBody])).1
      left
      rw [← htake body rest hbody, hinside, htake _ after h.body]
  | cons c before =>
      right
      have hinside : body ++ ';' :: rest = before ++ '&' :: (name.toList ++ ';' :: after) :=
        (List.cons.inj hplace).2
      rcases List.append_eq_append_iff.mp hinside with ⟨front, _, hrest⟩ | ⟨back, hback, hrest⟩
      · cases front with
        | nil => cases hrest
        | cons d front => exact ⟨⟨front, after, (List.cons.inj hrest).2⟩, h.body, h.head,
            h.not_predefined⟩
      · cases back with
        | nil => cases hrest
        | cons d back =>
            have hmem : d ∈ body := by simp [hback]
            rw [← (List.cons.inj hrest).1] at hmem
            cases hbody '&' hmem

-- All entities that are mentioned in a text that can be expanded are known.
theorem Replaced.known {text result : List Char} (h : Replaced entity? text result) {name : String}
    (hname : Mentions text name) : ∃ found, entity? name = some found := by
  induction h with
  | nil =>
      obtain ⟨before, after, hplace⟩ := hname.place
      cases before <;> cases hplace
  | @plain c rest result hc _ ih => exact ih (hname.of_cons hc)
  | @reference body rest text result hbody hdenotes _ ih =>
      rcases hname.of_reference hbody with rfl | hrest
      · have hhead := hname.head
        have hnone := hname.not_predefined
        generalize hletters : name.toList = letters at hdenotes hhead
        cases hdenotes with
        | character hc => exact absurd rfl hhead
        | predefined _ hpredefined =>
            rw [← hletters, String.ofList_toList, hnone] at hpredefined
            cases hpredefined
        | @declared _ found _ _ hentity =>
            rw [← hletters, String.ofList_toList] at hentity
            exact ⟨found, hentity⟩
      · exact ih hrest

end TemplateMarkup.Reference
