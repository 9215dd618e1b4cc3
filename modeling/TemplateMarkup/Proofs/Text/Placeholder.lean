import Mathlib.Data.List.DropRight
import TemplateMarkup.Proofs.Markup.Escape
import TemplateMarkup.Text.Placeholder

namespace TemplateMarkup.Text

open Markup (bne_of_notMem takeWhile_dropWhile_append)

-- What no expression holds: line ends and the other line separators.
def isBreak (c : Char) : Bool :=
  isLineEnd c || isHardBreak c

-- The placeholder that a text begins with, and the text after it: everything up to the first
-- closing brace, if that is on one line apart from the white space at its ends.
def placeholderAhead? : List Char → Option (List Char × List Char)
  | '$' :: '\x7b' :: text =>
    match text.dropWhile (· != '\x7d') with
    | [] => none
    | _ :: rest =>
      let inside := text.takeWhile (· != '\x7d')
      if (stripBoth isLayout inside).any isBreak then none else some (inside, rest)
  | _ => none

-- A placeholder as it is written.
def writePlaceholder (inside : List Char) : List Char :=
  '$' :: '\x7b' :: (inside ++ ['\x7d'])

section Ahead

variable {text inside rest : List Char}

theorem placeholderAhead?_of_ne {c : Char} (hc : c ≠ '$') (text : List Char) :
    placeholderAhead? (c :: text) = none := by
  rw [placeholderAhead?]
  intro rest heq
  exact hc (List.cons.inj heq).1

theorem placeholderAhead?_of_second_ne {c : Char} (hc : c ≠ '\x7b') (text : List Char) :
    placeholderAhead? ('$' :: c :: text) = none := by
  rw [placeholderAhead?]
  intro rest heq
  exact hc (List.cons.inj (List.cons.inj heq).2).1

theorem placeholderAhead?_unclosed (h : '\x7d' ∉ text) :
    placeholderAhead? ('$' :: '\x7b' :: text) = none := by
  have hnone : text.dropWhile (· != '\x7d') = [] := by
    rw [List.dropWhile_eq_nil_iff]
    exact bne_of_notMem h
  rw [placeholderAhead?, hnone]

theorem placeholderAhead?_closed (h : '\x7d' ∉ inside) (rest : List Char) :
    placeholderAhead? ('$' :: '\x7b' :: (inside ++ '\x7d' :: rest)) =
      if (stripBoth isLayout inside).any isBreak then none else some (inside, rest) := by
  obtain ⟨htake, hdrop⟩ := takeWhile_dropWhile_append inside ('\x7d' :: rest)
    (bne_of_notMem h) (by simp)
  simp only [placeholderAhead?, htake, hdrop]

theorem placeholderAhead?_eq_some_iff :
    placeholderAhead? text = some (inside, rest) ↔
      text = writePlaceholder inside ++ rest ∧ '\x7d' ∉ inside ∧
        (stripBoth isLayout inside).any isBreak = false := by
  have hwritten : writePlaceholder inside ++ rest =
      '$' :: '\x7b' :: (inside ++ '\x7d' :: rest) := by
    simp [writePlaceholder]
  rw [hwritten]
  constructor
  · intro h
    by_cases hstart : ∃ behind, text = '$' :: '\x7b' :: behind
    · obtain ⟨behind, rfl⟩ := hstart
      by_cases hclose : '\x7d' ∈ behind
      · obtain ⟨front, after, rfl, hfront⟩ := List.eq_append_cons_of_mem hclose
        rw [placeholderAhead?_closed hfront] at h
        split at h
        · cases h
        · rename_i hbreak
          cases h
          exact ⟨rfl, hfront, by simpa using hbreak⟩
      · rw [placeholderAhead?_unclosed hclose] at h
        cases h
    · rw [placeholderAhead?] at h
      · cases h
      · exact fun behind hbehind => hstart ⟨behind, hbehind⟩
  · rintro ⟨rfl, hinside, hbreak⟩
    rw [placeholderAhead?_closed hinside, hbreak]
    rfl

-- A placeholder is one whatever comes behind it.
theorem placeholderAhead?_append (h : placeholderAhead? text = some (inside, rest))
    (behind : List Char) : placeholderAhead? (text ++ behind) = some (inside, rest ++ behind) := by
  obtain ⟨htext, hinside⟩ := placeholderAhead?_eq_some_iff.mp h
  apply placeholderAhead?_eq_some_iff.mpr
  exact ⟨by rw [htext, List.append_assoc], hinside⟩

theorem length_of_placeholderAhead? (h : placeholderAhead? text = some (inside, rest)) :
    rest.length < text.length := by
  rw [(placeholderAhead?_eq_some_iff.mp h).1, writePlaceholder]
  simp only [List.cons_append, List.append_assoc, List.length_cons, List.length_append]
  omega

end Ahead

-- A part of a text: a stretch of it, or what stands between the braces of a placeholder.
inductive Piece where
  | stretch (text : List Char)
  | placeholder (inside : List Char)
  deriving DecidableEq, Repr

namespace Piece

def source : Piece → List Char
  | .stretch text => text
  | .placeholder inside => writePlaceholder inside

def fragment : Piece → Fragment
  | .stretch text => .literal (String.ofList text)
  | .placeholder inside => .expansion (String.ofList (stripBoth isLayout inside))

-- The stretch that ends at a placeholder or with the text, if there is anything in it.
def ended (stretch : List Char) : List Piece :=
  if stretch = [] then [] else [.stretch stretch]

end Piece

-- Walks through a text from left to right, over each placeholder that begins where it stands and
-- else over one character. `stretch` is what has been passed since the last placeholder.
def piecesFrom (stretch text : List Char) : List Piece :=
  match _h : placeholderAhead? text with
  | some (inside, rest) => Piece.ended stretch ++ .placeholder inside :: piecesFrom [] rest
  | none =>
    match text with
    | [] => Piece.ended stretch
    | c :: rest => piecesFrom (stretch ++ [c]) rest
termination_by text.length
decreasing_by
  · exact length_of_placeholderAhead? _h
  · simp

-- The parts that a reader from left to right finds.
def pieces (text : List Char) : List Piece :=
  piecesFrom [] text

theorem rdropWhile_cons (p : Char → Bool) (c : Char) (rest : List Char) :
    (c :: rest).rdropWhile p = if p c && rest.all p then [] else c :: rest.rdropWhile p := by
  have hall : (rest.reverse.dropWhile p).isEmpty = rest.all p := by
    rw [Bool.eq_iff_iff, List.isEmpty_iff, List.dropWhile_eq_nil_iff]
    simp
  rw [List.rdropWhile, List.reverse_cons, List.dropWhile_append, hall]
  cases hrest : rest.all p with
  | false => simp [List.rdropWhile]
  | true =>
      have hnone : rest.rdropWhile p = [] := by
        rw [List.rdropWhile, List.reverse_eq_nil_iff, ← List.isEmpty_iff, hall]
        exact hrest
      cases hc : p c with
      | false => simp [hnone, hc]
      | true => simp [hc]

theorem isLayout_of_isLineEnd {c : Char} (h : isLineEnd c = true) : isLayout c = true := by
  simp [isLayout, h]

theorem isLayout_of_isHardBreak {c : Char} (h : isHardBreak c = true) : isLayout c = false := by
  simp only [isHardBreak, Bool.or_eq_true, decide_eq_true_eq] at h
  rcases h with (rfl | rfl) | rfl <;> decide

namespace PlaceholderPart

-- Whether a reader may go through a text.
def reads (part : PlaceholderPart) (text : List Char) : Bool :=
  (text.foldlM next? part).isSome

theorem reads_cons (part : PlaceholderPart) (c : Char) (text : List Char) :
    part.reads (c :: text) = (part.next? c).any (·.reads text) := by
  rw [reads, List.foldlM_cons]
  cases part.next? c with
  | none => rfl
  | some next => rfl

-- Behind a line end in an expression only white space is allowed.
theorem reads_tail (text : List Char) : tail.reads text = text.all isLayout := by
  induction text with
  | nil => rfl
  | cons c text ih =>
      rw [reads_cons, next?, List.all_cons]
      cases isLayout c with
      | false => rfl
      | true => exact ih

-- An expression goes on up to white space that nothing else follows.
theorem reads_expression (text : List Char) :
    expression.reads text = !(text.rdropWhile isLayout).any isBreak := by
  induction text with
  | nil => rfl
  | cons c text ih =>
      rw [reads_cons, next?, rdropWhile_cons]
      cases hend : isLineEnd c with
      | true =>
          have hlayout := isLayout_of_isLineEnd hend
          have htail := reads_tail text
          cases hall : text.all isLayout with
          | false => simp [htail, hall, isBreak, hend]
          | true => simp [htail, hall, hlayout]
      | false =>
          cases hhard : isHardBreak c with
          | true =>
              have hlayout := isLayout_of_isHardBreak hhard
              simp [hlayout, isBreak, hhard]
          | false =>
              have hbreak : isBreak c = false := by simp [isBreak, hend, hhard]
              cases hall : isLayout c && text.all isLayout with
              | false => simp [ih, hbreak]
              | true =>
                  have hnone : text.rdropWhile isLayout = [] := by
                    simpa [List.rdropWhile_eq_nil_iff] using (Bool.and_eq_true_iff.mp hall).2
                  simp [ih, hnone]

-- From its beginning a placeholder goes on over white space to the expression.
theorem reads_lead (text : List Char) :
    lead.reads text = !(stripBoth isLayout text).any isBreak := by
  have hskip : lead.reads text = expression.reads (text.dropWhile isLayout) := by
    induction text with
    | nil => rfl
    | cons c text ih =>
        rw [reads_cons, next?, List.dropWhile_cons]
        cases hlayout : isLayout c with
        | true => exact ih
        | false =>
            have hend := mt isLayout_of_isLineEnd (Bool.eq_false_iff.mp hlayout)
            rw [if_neg Bool.false_ne_true, if_neg Bool.false_ne_true, reads_cons, next?, if_neg hend]
  rw [hskip, reads_expression]
  rfl

end PlaceholderPart

theorem closePlaceholder?_eq (part : PlaceholderPart) (front text : List Char) :
    closePlaceholder? part front text =
      match text.dropWhile (· != '\x7d') with
      | [] => none
      | _ :: rest =>
        let inside := text.takeWhile (· != '\x7d')
        if part.reads inside then some (front.reverse ++ inside, rest) else none := by
  induction text generalizing part front with
  | nil => rfl
  | cons c text ih =>
      rw [closePlaceholder?]
      by_cases hc : c = '\x7d'
      · subst hc
        simp [PlaceholderPart.reads]
      · rw [if_neg hc]
        have hpass : (c != '\x7d') = true := by simpa using hc
        simp only [List.dropWhile_cons, List.takeWhile_cons, hpass, if_true]
        cases hnext : part.next? c with
        | none =>
            cases text.dropWhile (· != '\x7d') with
            | nil => rfl
            | cons d rest => simp [PlaceholderPart.reads_cons, hnext]
        | some next =>
            dsimp only
            rw [ih]
            cases text.dropWhile (· != '\x7d') with
            | nil => rfl
            | cons d rest => simp [PlaceholderPart.reads_cons, hnext]

-- Reading a placeholder character by character finds what its closing brace and its inside say.
theorem openPlaceholder?_eq (text : List Char) :
    openPlaceholder? text = placeholderAhead? text := by
  unfold openPlaceholder?
  split
  · rename_i text
    rw [closePlaceholder?_eq, placeholderAhead?]
    cases text.dropWhile (· != '\x7d') with
    | nil => rfl
    | cons c rest =>
        dsimp only
        rw [PlaceholderPart.reads_lead]
        cases (stripBoth isLayout (text.takeWhile (· != '\x7d'))).any isBreak with
        | false => rfl
        | true => rfl
  · rename_i hother
    rw [placeholderAhead?]
    exact hother

section Parts

variable {stretch text inside rest : List Char} {c : Char}

theorem piecesFrom_of_placeholder (h : placeholderAhead? text = some (inside, rest)) :
    piecesFrom stretch text = Piece.ended stretch ++ .placeholder inside :: pieces rest := by
  rw [piecesFrom]
  split
  · rename_i hfound
    rw [h] at hfound
    cases hfound
    rfl
  · rename_i hnone
    rw [h] at hnone
    cases hnone

theorem piecesFrom_of_char (h : placeholderAhead? (c :: rest) = none) :
    piecesFrom stretch (c :: rest) = piecesFrom (stretch ++ [c]) rest := by
  rw [piecesFrom]
  split
  · rename_i hfound
    rw [h] at hfound
    cases hfound
  · rfl

theorem piecesFrom_nil (stretch : List Char) : piecesFrom stretch [] = Piece.ended stretch := by
  rw [piecesFrom]
  rfl

theorem scanSteps_of_placeholder (h : placeholderAhead? text = some (inside, rest)) :
    scanSteps text = .placeholder inside :: scanSteps rest := by
  rw [← openPlaceholder?_eq] at h
  rw [scanSteps]
  split
  · rename_i hfound
    rw [h] at hfound
    cases hfound
    rfl
  · rename_i hnone
    rw [h] at hnone
    cases hnone

theorem scanSteps_of_char (h : placeholderAhead? (c :: rest) = none) :
    scanSteps (c :: rest) = .char c :: scanSteps rest := by
  rw [← openPlaceholder?_eq] at h
  rw [scanSteps]
  split
  · rename_i hfound
    rw [h] at hfound
    cases hfound
  · rfl

theorem scanSteps_nil : scanSteps [] = [] := by
  rw [scanSteps]
  rfl

theorem map_fragment_ended (stretch : List Char) :
    (Piece.ended stretch).map Piece.fragment = Fragment.pendingLiteral stretch.reverse := by
  unfold Piece.ended Fragment.pendingLiteral
  by_cases hstretch : stretch = []
  · simp [hstretch]
  · simp [hstretch, Piece.fragment]

theorem ofSteps_scanSteps (stretch text : List Char) :
    Fragment.ofSteps stretch.reverse (scanSteps text) =
      (piecesFrom stretch text).map Piece.fragment := by
  induction stretch, text using piecesFrom.induct with
  | case1 stretch text inside rest h ih =>
      rw [scanSteps_of_placeholder h, piecesFrom_of_placeholder h, Fragment.ofSteps,
        List.map_append, map_fragment_ended, List.map_cons, pieces, ← ih]
      rfl
  | case2 stretch => rw [scanSteps_nil, piecesFrom_nil, map_fragment_ended, Fragment.ofSteps]
  | case3 stretch c rest h ih =>
      rw [scanSteps_of_char h, piecesFrom_of_char h, Fragment.ofSteps, ← ih, List.reverse_append]
      rfl

theorem split_eq_map_pieces (text : String) :
    Fragment.split text = (pieces text.toList).map Piece.fragment :=
  ofSteps_scanSteps [] text.toList

theorem flatMap_source_ended (stretch : List Char) :
    (Piece.ended stretch).flatMap Piece.source = stretch := by
  unfold Piece.ended
  by_cases hstretch : stretch = []
  · simp [hstretch]
  · simp [hstretch, Piece.source]

-- The parts of a text make it up.
theorem flatMap_source_piecesFrom (stretch text : List Char) :
    (piecesFrom stretch text).flatMap Piece.source = stretch ++ text := by
  induction stretch, text using piecesFrom.induct with
  | case1 stretch text inside rest h ih =>
      rw [piecesFrom_of_placeholder h, List.flatMap_append, flatMap_source_ended,
        List.flatMap_cons, pieces, ih, (placeholderAhead?_eq_some_iff.mp h).1]
      rfl
  | case2 stretch => rw [piecesFrom_nil, flatMap_source_ended, List.append_nil]
  | case3 stretch c rest h ih =>
      rw [piecesFrom_of_char h, ih, List.append_assoc]
      rfl

-- No placeholder begins in a stretch of text, given what stands behind it.
def IsClear (stretch behind : List Char) : Prop :=
  ∀ suffix, suffix <:+ stretch → suffix ≠ [] → placeholderAhead? (suffix ++ behind) = none

theorem isClear_nil (behind : List Char) : IsClear [] behind := by
  intro suffix hsuffix hne
  exact absurd (List.suffix_nil.mp hsuffix) hne

theorem IsClear.concat (h : IsClear stretch (c :: rest))
    (hc : placeholderAhead? (c :: rest) = none) : IsClear (stretch ++ [c]) rest := by
  intro suffix hsuffix hne
  rcases List.suffix_concat_iff.mp hsuffix with hnil | ⟨front, rfl, hfront⟩
  · exact absurd hnil hne
  · rw [List.append_assoc, List.singleton_append]
    by_cases hempty : front = []
    · rw [hempty]
      exact hc
    · exact h front hfront hempty

-- What stands behind a stretch makes no placeholder of it, and so it makes none by itself.
theorem IsClear.alone (h : IsClear stretch text) : IsClear stretch [] := by
  intro suffix hsuffix hne
  rw [List.append_nil]
  cases hahead : placeholderAhead? suffix with
  | none => rfl
  | some found =>
      have hbefore := h suffix hsuffix hne
      rw [placeholderAhead?_append hahead text] at hbefore
      cases hbefore

theorem isClear_of_mem_ended (h : IsClear stretch text) {other : List Char}
    (hmem : .stretch other ∈ Piece.ended stretch) : IsClear other [] ∧ other ≠ [] := by
  unfold Piece.ended at hmem
  split at hmem
  · cases hmem
  · rename_i hne
    cases List.mem_singleton.mp hmem
    exact ⟨h.alone, hne⟩

theorem isClear_of_mem_piecesFrom (h : IsClear stretch text) {other : List Char}
    (hmem : .stretch other ∈ piecesFrom stretch text) : IsClear other [] ∧ other ≠ [] := by
  induction stretch, text using piecesFrom.induct with
  | case1 stretch text inside rest hahead ih =>
      rw [piecesFrom_of_placeholder hahead, List.mem_append, List.mem_cons] at hmem
      rcases hmem with hhere | hplaceholder | hlater
      · exact isClear_of_mem_ended h hhere
      · cases hplaceholder
      · exact ih (isClear_nil rest) hlater
  | case2 stretch =>
      rw [piecesFrom_nil] at hmem
      exact isClear_of_mem_ended h hmem
  | case3 stretch c rest hahead ih =>
      rw [piecesFrom_of_char hahead] at hmem
      exact ih (h.concat hahead) hmem

theorem piecesFrom_of_isClear (h : IsClear text []) (stretch : List Char) :
    piecesFrom stretch text = Piece.ended (stretch ++ text) := by
  induction text generalizing stretch with
  | nil => rw [piecesFrom_nil, List.append_nil]
  | cons c rest ih =>
      have hhere := h (c :: rest) List.suffix_rfl (List.cons_ne_nil c rest)
      rw [List.append_nil] at hhere
      have hrest : IsClear rest [] := fun suffix hsuffix hne =>
        h suffix (hsuffix.trans (List.suffix_cons c rest)) hne
      rw [piecesFrom_of_char hhere, ih hrest, List.append_assoc]
      rfl

-- A stretch between placeholders is one part when it is read alone.
theorem pieces_of_mem_pieces (h : .stretch stretch ∈ pieces text) :
    pieces stretch = [.stretch stretch] := by
  obtain ⟨hclear, hne⟩ := isClear_of_mem_piecesFrom (isClear_nil text) h
  rw [pieces, piecesFrom_of_isClear hclear, List.nil_append, Piece.ended, if_neg hne]

end Parts

-- Splitting a text finds the parts that a plain walk from left to right finds. They make up the
-- text, and a literal that is split again stays whole.
theorem Fragment.split_leftmost (text : String) :
    split text = (pieces text.toList).map Piece.fragment ∧
      (pieces text.toList).flatMap Piece.source = text.toList ∧
      ∀ literal, .literal literal ∈ split text → split literal = [.literal literal] := by
  refine ⟨split_eq_map_pieces text, flatMap_source_piecesFrom [] text.toList, ?_⟩
  intro literal hmem
  rw [split_eq_map_pieces] at hmem
  obtain ⟨piece, hpiece, hliteral⟩ := List.mem_map.mp hmem
  cases piece with
  | placeholder inside => cases hliteral
  | stretch stretch =>
      cases hliteral
      rw [split_eq_map_pieces, String.toList_ofList, pieces_of_mem_pieces hpiece]
      rfl

-- A dollar sign in front of a placeholder, and a placeholder that is not closed.
theorem Fragment.split_leftmost_dollars :
    split "$$\x7b a \x7d$\x7bb" = [.literal "$", .expansion "a", .literal "$\x7bb"] ∧
      split "$\x7bb" = [.literal "$\x7bb"] := by
  have hsplit : split "$$\x7b a \x7d$\x7bb" =
      [.literal "$", .expansion "a", .literal "$\x7bb"] := by
    decide +kernel
  obtain ⟨-, -, hagain⟩ := split_leftmost "$$\x7b a \x7d$\x7bb"
  refine ⟨hsplit, hagain "$\x7bb" ?_⟩
  rw [hsplit]
  simp

end TemplateMarkup.Text
