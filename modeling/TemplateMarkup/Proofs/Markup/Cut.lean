import Mathlib.Data.List.Infix
import TemplateMarkup.Event
import TemplateMarkup.Proofs.Markup.Escape
import TemplateMarkup.Proofs.Markup.Stretch

namespace TemplateMarkup.Markup

theorem cutBefore_append {σ : Type} {next : σ → Char → Option σ} {state last : σ}
    {inside : List Char} (hinside : inside.foldlM next state = some last) {c : Char}
    (hc : next last c = none) (rest : List Char) :
    cutBefore next state (inside ++ c :: rest) = some (inside, rest) := by
  induction inside generalizing state with
  | nil =>
      cases hinside
      rw [List.nil_append, cutBefore, hc]
  | cons d inside ih =>
      rw [List.foldlM_cons] at hinside
      rw [List.cons_append, cutBefore]
      cases hd : next state d with
      | none =>
          rw [hd] at hinside
          cases hinside
      | some middle =>
          rw [hd] at hinside
          simp only [ih hinside]

section Behind

variable {isEnd : List Char → Bool}

-- A text is read through when no greater-than sign in it comes behind an end.
theorem foldlM_stopsBehind {read text : List Char}
    (h : ∀ before after, text = before ++ '>' :: after → isEnd (before.reverse ++ read) = false) :
    text.foldlM (stopsBehind isEnd) read = some (text.reverse ++ read) := by
  induction text generalizing read with
  | nil => rfl
  | cons c text ih =>
      have hc : ¬(c = '>' && isEnd read) = true := by
        intro hc
        simp only [Bool.and_eq_true, decide_eq_true_eq] at hc
        have hend := h [] text (by rw [hc.1, List.nil_append])
        rw [List.reverse_nil, List.nil_append, hc.2] at hend
        cases hend
      have hrest := @ih (c :: read) fun before after htext => by
        have hend := h (c :: before) after (by rw [htext, List.cons_append])
        rwa [List.reverse_cons, List.append_assoc, List.singleton_append] at hend
      rw [List.foldlM_cons, stopsBehind, if_neg hc]
      simpa using hrest

-- Behind an opening mark a stretch ends with the character `mark` twice and a greater-than sign.
-- The opening mark itself does not count for this.
structure EndsWith (isEnd : List Char → Bool) (opening : List Char) (mark : Char) : Prop where
  passed : opening.foldlM (stopsBehind isEnd) [] = some opening.reverse
  mark_ne : mark ≠ '>'
  nothing : isEnd opening.reverse = false
  single : ∀ c, isEnd (c :: opening.reverse) = false
  double : ∀ c d read, isEnd (c :: d :: (read ++ opening.reverse)) = true ↔ c = mark ∧ d = mark

theorem EndsWith.suffix {opening before : List Char} {mark : Char} (h : EndsWith isEnd opening mark)
    (hend : isEnd (before.reverse ++ opening.reverse) = true) : [mark, mark] <:+ before := by
  rw [← List.reverse_prefix]
  generalize before.reverse = back at hend ⊢
  match back with
  | [] =>
      rw [List.nil_append, h.nothing] at hend
      cases hend
  | [c] =>
      rw [List.singleton_append, h.single] at hend
      cases hend
  | c :: d :: back =>
      obtain ⟨rfl, rfl⟩ := (h.double c d back).mp hend
      exact List.prefix_append _ back

-- The text up to the end of such a stretch must not have that end in it.
theorem EndsWith.cutBefore {opening text : List Char} {mark : Char}
    (h : EndsWith isEnd opening mark) (htext : ¬[mark, mark, '>'] <:+: text) (rest : List Char) :
    cutBefore (stopsBehind isEnd) [] (opening ++ text ++ [mark, mark] ++ '>' :: rest) =
      some (opening ++ text ++ [mark, mark], rest) := by
  have hinside : (text ++ [mark, mark]).foldlM (stopsBehind isEnd) opening.reverse =
      some ((text ++ [mark, mark]).reverse ++ opening.reverse) := by
    refine foldlM_stopsBehind fun before after heq => ?_
    by_contra hstop
    rw [Bool.not_eq_false] at hstop
    obtain ⟨front, rfl⟩ := h.suffix hstop
    have hsign : '>' ∉ [mark, mark] := by simp [h.mark_ne.symm]
    -- so the sign is in the text
    rcases List.append_eq_append_iff.mp heq with ⟨between, _, hc⟩ | ⟨between, ht, hc⟩
    · exact hsign (by rw [hc]; exact List.mem_append_right _ List.mem_cons_self)
    · cases between with
      | nil =>
          rw [List.nil_append] at hc
          exact hsign (hc ▸ List.mem_cons_self)
      | cons c between =>
          cases hc
          exact htext ⟨front, between, by rw [ht]; simp⟩
  have hread : (opening ++ text ++ [mark, mark]).foldlM (stopsBehind isEnd) [] =
      some ((text ++ [mark, mark]).reverse ++ opening.reverse) := by
    rw [List.append_assoc, List.foldlM_append, h.passed]
    exact hinside
  have hend : isEnd ((text ++ [mark, mark]).reverse ++ opening.reverse) = true := by
    rw [List.reverse_append, List.append_assoc]
    exact (h.double mark mark text.reverse).mpr ⟨rfl, rfl⟩
  exact cutBefore_append hread (by rw [stopsBehind, hend]; rfl) rest

end Behind

section Quotes

theorem foldlM_stopsUnquoted_outside {text : List Char}
    (h : ∀ c ∈ text, c ≠ '>' ∧ c ≠ '"' ∧ c ≠ '\'') :
    text.foldlM stopsUnquoted none = some none := by
  induction text with
  | nil => rfl
  | cons c text ih =>
      obtain ⟨hbracket, hdouble, hsingle⟩ := h c List.mem_cons_self
      have hnext : stopsUnquoted none c = some none := by
        simp [stopsUnquoted, hbracket, hdouble, hsingle]
      rw [List.foldlM_cons, hnext]
      exact ih fun d hd => h d (List.mem_cons_of_mem c hd)

theorem foldlM_stopsUnquoted_inside {mark : Char} {text : List Char} (h : mark ∉ text) :
    text.foldlM stopsUnquoted (some mark) = some (some mark) := by
  induction text with
  | nil => rfl
  | cons c text ih =>
      rw [List.mem_cons, not_or] at h
      have hnext : stopsUnquoted (some mark) c = some (some mark) := by
        simp [stopsUnquoted, Ne.symm h.1]
      rw [List.foldlM_cons, hnext]
      exact ih h.2

end Quotes

-- A name of letters.
structure IsWord (name : List Char) : Prop where
  nonempty : name ≠ []
  letters : ∀ c ∈ name, c.isAlpha = true

namespace IsWord

variable {name : List Char}

theorem ne (h : IsWord name) {c d : Char} (hc : c ∈ name) (hd : d.isAlpha = false) : c ≠ d := by
  rintro rfl
  rw [h.letters c hc] at hd
  cases hd

theorem notMem (h : IsWord name) {d : Char} (hd : d.isAlpha = false) : d ∉ name :=
  fun hmem => h.ne hmem hd rfl

theorem not_isMarkupSpace (h : IsWord name) {c : Char} (hc : c ∈ name) :
    isMarkupSpace c = false := by
  simp [isMarkupSpace, h.ne hc (d := ' ') rfl, h.ne hc (d := '\t') rfl, h.ne hc (d := '\r') rfl,
    h.ne hc (d := '\n') rfl]

theorem foldlM_stopsUnquoted (h : IsWord name) : name.foldlM stopsUnquoted none = some none :=
  foldlM_stopsUnquoted_outside fun _ hc => ⟨h.ne hc rfl, h.ne hc rfl, h.ne hc rfl⟩

end IsWord

section Pieces

-- What is written comes as one piece in front of `rest`.
def CutsTo (written : List Char) (piece : Piece) (rest : List Char) : Prop :=
  ∃ raw, chunks (written ++ rest) = ⟨raw, .ok piece, rest⟩ :: chunks rest

-- Text goes on up to a tag.
theorem cutsTo_text {text rest : List Char} (hne : text ≠ []) (htext : '<' ∉ text)
    (hrest : ∀ c ∈ rest.head?, c = '<') : CutsTo text (.text text) rest := by
  obtain ⟨c, more, rfl⟩ := List.exists_cons_of_ne_nil hne
  rw [List.mem_cons, not_or] at htext
  obtain ⟨htake, hdrop⟩ := takeWhile_dropWhile_append more rest (bne_of_notMem htext.2)
    fun d hd => by simp [hrest d hd]
  have hcut : cutChunk c (more ++ rest) = ⟨c :: more, .ok (.text (c :: more)), rest⟩ := by
    simp only [cutChunk, if_neg (Ne.symm htext.1), htake, hdrop]
  refine ⟨c :: more, ?_⟩
  rw [List.cons_append, chunks_cons, hcut]
  rfl

theorem cutsTo_of_markupChunk (ofInside : List Char → Except Malformation Piece)
    {inside rest : List Char} {piece : Piece} {unclosed : Malformation}
    {found : Option (List Char × List Char)}
    (hcut : cutMarkup (inside ++ '>' :: rest) =
      markupChunk (inside ++ '>' :: rest) unclosed found ofInside)
    (hfound : found = some (inside, rest)) (hpiece : ofInside inside = .ok piece) :
    CutsTo ('<' :: inside ++ ['>']) piece rest := by
  have hchunk : cutChunk '<' (inside ++ '>' :: rest) =
      ⟨'<' :: inside ++ ['>'], .ok piece, rest⟩ := by
    rw [cutChunk, if_pos rfl, hcut, hfound, markupChunk, hpiece]
  refine ⟨'<' :: inside ++ ['>'], ?_⟩
  rw [List.append_assoc, List.cons_append, List.singleton_append, chunks_cons, hchunk]
  rfl

def commentMark : List Char :=
  ['!', '-', '-']

def cdataMark : List Char :=
  ['!', '[', 'C', 'D', 'A', 'T', 'A', '[']

def writeComment (text : List Char) : List Char :=
  '<' :: (commentMark ++ text ++ ['-', '-']) ++ ['>']

def writeCdata (text : List Char) : List Char :=
  '<' :: (cdataMark ++ text ++ [']', ']']) ++ ['>']

theorem endsWith_comment : EndsWith endsComment commentMark '-' where
  passed := rfl
  mark_ne := by decide
  nothing := rfl
  single c := by simp [endsComment, commentMark]
  double c d read := by simp [endsComment, commentMark, @eq_comm Char '-']

theorem endsWith_cdata : EndsWith endsCdata cdataMark ']' where
  passed := rfl
  mark_ne := by decide
  nothing := rfl
  single c := by simp [endsCdata, cdataMark, List.isPrefixOf]
  double c d read := by simp [endsCdata, @eq_comm Char ']']

-- A comment can be written when it does not have its end mark inside. Documents ask for more:
-- no two hyphens together, and none at the end.
theorem cutsTo_comment {text : List Char} (h : ¬['-', '-', '>'] <:+: text) (rest : List Char) :
    CutsTo (writeComment text) (.comment text) rest := by
  refine cutsTo_of_markupChunk commentPiece rfl (endsWith_comment.cutBefore h rest) ?_
  simp [commentPiece, dropStart?, commentMark]

theorem cutsTo_cdata {text : List Char} (h : ¬[']', ']', '>'] <:+: text) (rest : List Char) :
    CutsTo (writeCdata text) (.cdata text) rest := by
  refine cutsTo_of_markupChunk cdataPiece rfl (endsWith_cdata.cutBefore h rest) ?_
  simp [cdataPiece, dropStart?, cdataMark]

-- Nothing but a letter can begin the name in a start tag here.
theorem cutMarkup_startTag {c : Char} (hc : c.isAlpha = true) (text : List Char) :
    cutMarkup (c :: text) = markupChunk (c :: text) .unclosedTag
      (cutBefore stopsUnquoted none (c :: text)) startTagPiece := by
  have hmarks : c ≠ '!' ∧ c ≠ '?' ∧ c ≠ '/' := by
    refine ⟨?_, ?_, ?_⟩ <;> rintro rfl <;> exact absurd hc (by decide)
  unfold cutMarkup
  split <;> simp_all

theorem cutsTo_startTag {content : List Char}
    (hfirst : ∃ c more, content = c :: more ∧ c.isAlpha = true)
    (hquotes : content.foldlM stopsUnquoted none = some none)
    (hlast : content.getLast? ≠ some '/') (rest : List Char) :
    CutsTo ('<' :: content ++ ['>']) (.startTag content false) rest := by
  obtain ⟨c, more, rfl, hc⟩ := hfirst
  refine cutsTo_of_markupChunk startTagPiece (cutMarkup_startTag hc _)
    (cutBefore_append hquotes rfl rest) ?_
  rw [startTagPiece, if_neg hlast]

theorem cutsTo_emptyTag {content : List Char}
    (hfirst : ∃ c more, content = c :: more ∧ c.isAlpha = true)
    (hquotes : content.foldlM stopsUnquoted none = some none) (rest : List Char) :
    CutsTo ('<' :: (content ++ ['/']) ++ ['>']) (.startTag content true) rest := by
  obtain ⟨c, more, rfl, hc⟩ := hfirst
  have hslash : (c :: more ++ ['/']).foldlM stopsUnquoted none = some none := by
    rw [List.foldlM_append, hquotes]
    rfl
  refine cutsTo_of_markupChunk startTagPiece (cutMarkup_startTag hc _)
    (cutBefore_append hslash rfl rest) ?_
  rw [startTagPiece, List.getLast?_concat, if_pos rfl, List.dropLast_concat]

theorem cutsTo_endTag {name : List Char} (hname : IsWord name) (rest : List Char) :
    CutsTo ('<' :: ('/' :: name) ++ ['>']) (.endTag name) rest := by
  have hquotes : ('/' :: name).foldlM stopsUnquoted none = some none := by
    rw [List.foldlM_cons]
    exact hname.foldlM_stopsUnquoted
  have hspace : name.reverse.dropWhile isMarkupSpace = name.reverse := by
    cases hreverse : name.reverse with
    | nil => rfl
    | cons c more =>
        have hmem : c ∈ name := List.mem_reverse.mp (hreverse ▸ List.mem_cons_self)
        rw [List.dropWhile_cons, hname.not_isMarkupSpace hmem, if_neg Bool.false_ne_true]
  refine cutsTo_of_markupChunk endTagPiece rfl (cutBefore_append hquotes rfl rest) ?_
  simp only [endTagPiece, List.drop_succ_cons, List.drop_zero, hspace, List.reverse_reverse]
  cases hshape : name with
  | nil => exact absurd hshape hname.nonempty
  | cons c more => rfl

end Pieces

end TemplateMarkup.Markup
