import TemplateMarkup.Dtd.Declaration
import TemplateMarkup.Proofs.Dtd.Doctype
import TemplateMarkup.Proofs.Text.Slice

namespace TemplateMarkup

open Markup (byteCount_append byteCount_eq_utf8ByteSize takeWhile_dropWhile_append)
open Reference (byteCount)
open Text (Span slice? slice?_enclosed slice?_of_append utf8ByteSize_eq_of_append)

namespace Dtd

-- A lexeme of a text, the text behind it, and the bytes that it takes up.
structure Spot where
  piece : Cut
  span : Span

-- The lexemes of the last part of a text of `size` bytes.
def spotsFrom (size : Nat) (text : List Char) : List Spot :=
  match text with
  | [] => []
  | c :: rest =>
    if isBlankChar c then spotsFrom size rest
    else
      ⟨cut c rest, ⟨size - byteCount (c :: rest), size - byteCount (cut c rest).rest⟩⟩ ::
        spotsFrom size (cut c rest).rest
termination_by text.length
decreasing_by
  · simp
  · exact Nat.lt_succ_of_le (length_cut c rest)

def spots (text : String) : List Spot :=
  spotsFrom text.utf8ByteSize text.toList

theorem map_piece_spotsFrom (size : Nat) (text : List Char) :
    (spotsFrom size text).map Spot.piece = cuts text := by
  fun_induction spotsFrom size text with
  | case1 => rw [cuts_nil]; rfl
  | case2 c rest hc ih => rw [cuts_blank hc, ih]
  | case3 c rest hc ih =>
      rw [cuts_cut (Bool.eq_false_iff.mpr hc), List.map_cons, ih]

-- How the lexemes that hold a text are spelled, and an opening bracket.
def Lexeme.IsSpelled (written : List Char) : Lexeme → Prop
  | .name text => written = text.toList
  | .literal text =>
    ∃ quote, (quote = '"' ∨ quote = '\'') ∧ written = [quote] ++ text.toList ++ [quote]
  | .reference text => written = ['%'] ++ text.toList ++ [';']
  | .openBracket => written = ['[']
  | _ => True

theorem Lexeme.isSpelled_of_isMarkup {lexeme : Lexeme} (h : lexeme.isMarkup = true)
    (written : List Char) : lexeme.IsSpelled written := by
  cases lexeme <;> trivial

theorem isSpelled_wordLexeme (word : List Char) : (wordLexeme word).IsSpelled word := by
  unfold wordLexeme
  split
  · trivial
  · split
    · trivial
    · exact String.toList_ofList.symm

-- What is cut off a text in front of the rest is spelled as its lexeme is.
def Cut.IsOff (piece : Cut) (text : List Char) : Prop :=
  ∃ written, text = written ++ piece.rest ∧ piece.lexeme.IsSpelled written

theorem isOff_cutLiteral {quote : Char} (hquote : quote = '"' ∨ quote = '\'') (text : List Char) :
    (cutLiteral quote text).IsOff (quote :: text) := by
  have hsplit := List.takeWhile_append_dropWhile (p := (· != quote)) (l := text)
  unfold cutLiteral
  split
  · exact ⟨quote :: text, by simp, trivial⟩
  · rename_i mark rest hrest
    have hmark : mark = quote := by
      have hstop := List.head_dropWhile_not (· != quote) (l := text) (by simp [hrest])
      simpa [hrest] using hstop
    refine ⟨[quote] ++ text.takeWhile (· != quote) ++ [quote], ?_, quote, hquote, ?_⟩
    · rw [hrest, hmark] at hsplit
      rw [List.append_assoc, List.append_assoc, List.singleton_append, List.singleton_append, hsplit]
    · rw [String.toList_ofList]

theorem isOff_cutPercent (text : List Char) : (cutPercent text).IsOff ('%' :: text) := by
  have hsplit := List.takeWhile_append_dropWhile (p := isReferenceChar) (l := text)
  unfold cutPercent
  split
  · rename_i c name rest hname hrest
    refine ⟨['%'] ++ (c :: name) ++ [';'], ?_, ?_⟩
    · rw [hname, hrest] at hsplit
      rw [List.append_assoc, List.append_assoc, List.singleton_append, List.singleton_append, hsplit]
    · rw [Lexeme.IsSpelled, String.toList_ofList]
  · exact ⟨['%'], rfl, trivial⟩

theorem isOff_cut (c : Char) (rest : List Char) : (cut c rest).IsOff (c :: rest) := by
  unfold cut
  split
  · obtain ⟨front, hfront⟩ := rest_cutMarkup_suffix rest
    exact ⟨'<' :: front, by rw [List.cons_append, hfront],
      Lexeme.isSpelled_of_isMarkup (isMarkup_cutMarkup rest) _⟩
  · exact isOff_cutLiteral (.inl rfl) rest
  · exact isOff_cutLiteral (.inr rfl) rest
  · exact isOff_cutPercent rest
  · exact ⟨['['], rfl, rfl⟩
  · split
    · exact ⟨[']', ']', '>'], rfl, trivial⟩
    · exact ⟨[']'], rfl, trivial⟩
  · exact ⟨['>'], rfl, trivial⟩
  · refine ⟨c :: rest.takeWhile isNameChar, ?_, isSpelled_wordLexeme _⟩
    rw [List.cons_append, List.takeWhile_append_dropWhile]

-- A lexeme that takes up what is written for it in a text.
def Spot.IsIn (spot : Spot) (whole : String) : Prop :=
  ∃ front written, whole.toList = front ++ (written ++ spot.piece.rest) ∧
    spot.span = ⟨byteCount front, byteCount front + byteCount written⟩ ∧
    spot.piece.lexeme.IsSpelled written

section Spots

variable {whole : String} {front text : List Char} {spot : Spot}

theorem isIn_of_mem_spotsFrom (h : whole.toList = front ++ text) :
    ∀ spot ∈ spotsFrom whole.utf8ByteSize text, spot.IsIn whole := by
  generalize hsize : whole.utf8ByteSize = size
  fun_induction spotsFrom size text generalizing front with
  | case1 => simp
  | case2 c rest hc ih =>
      have hnext : whole.toList = front ++ [c] ++ rest := by
        rw [h, List.append_assoc, List.singleton_append]
      exact ih hnext
  | case3 c rest hc ih =>
      obtain ⟨written, hwritten, hspelled⟩ := isOff_cut c rest
      have hplace : whole.toList = front ++ (written ++ (cut c rest).rest) := by rw [h, hwritten]
      have hnext : whole.toList = front ++ written ++ (cut c rest).rest := by
        rw [hplace, List.append_assoc]
      intro spot hmem
      rcases List.mem_cons.mp hmem with rfl | hlater
      · refine ⟨front, written, hplace, ?_, hspelled⟩
        have hstart := utf8ByteSize_eq_of_append h
        have hstop := utf8ByteSize_eq_of_append hnext
        rw [byteCount_append] at hstop
        rw [← hsize, Span.mk.injEq]
        omega
      · exact ih hnext spot hlater

theorem isIn_of_mem_spots (text : String) : ∀ spot ∈ spots text, spot.IsIn text :=
  @isIn_of_mem_spotsFrom text [] _ rfl

theorem map_piece_spots (text : String) : (spots text).map Spot.piece = cuts text.toList :=
  map_piece_spotsFrom text.utf8ByteSize text.toList

end Spots

-- What stands between the quotes of a literal, which take up one byte each.
def unquote? (quotation : String) : Option String :=
  slice? quotation ⟨1, quotation.utf8ByteSize - 1⟩

-- The lexeme of a spot with its text cut out of the whole.
def Spot.lexeme? (whole : String) (spot : Spot) : Option Lexeme :=
  match spot.piece.lexeme with
  | .name _ => (slice? whole spot.span).map .name
  | .literal _ => ((slice? whole spot.span).bind unquote?).map .literal
  | .reference _ => (slice? whole ⟨spot.span.start + 1, spot.span.stop - 1⟩).map .reference
  | lexeme => some lexeme

theorem unquote?_eq {quote : Char} (hquote : quote = '"' ∨ quote = '\'') (text : String) :
    unquote? (String.ofList ([quote] ++ text.toList ++ [quote])) = some text := by
  have hone : byteCount [quote] = 1 := by rcases hquote with rfl | rfl <;> rfl
  have hnone : byteCount [] = 0 := rfl
  have hsize := byteCount_eq_utf8ByteSize ([quote] ++ text.toList ++ [quote])
  have hinside := @slice?_enclosed (String.ofList ([quote] ++ text.toList ++ [quote])) [] [quote]
    text.toList [quote] [] (by rw [String.toList_ofList]; simp)
  rw [hnone, Nat.zero_add, Nat.zero_add, hone, hsize, String.ofList_toList] at hinside
  exact hinside

theorem Spot.lexeme?_eq {whole : String} {spot : Spot} (h : spot.IsIn whole) :
    spot.lexeme? whole = some spot.piece.lexeme := by
  obtain ⟨⟨lexeme, rest⟩, span⟩ := spot
  obtain ⟨front, written, hplace, rfl, hspelled⟩ := h
  have hslice := slice?_of_append hplace
  cases lexeme with
  | name text =>
      obtain rfl : written = text.toList := hspelled
      simp only [lexeme?, hslice, Option.map_some, String.ofList_toList]
  | literal text =>
      obtain ⟨quote, hquote, rfl⟩ := hspelled
      simp only [lexeme?, hslice, Option.bind_some, unquote?_eq hquote, Option.map_some]
  | reference text =>
      obtain rfl : written = ['%'] ++ text.toList ++ [';'] := hspelled
      have hinside := @slice?_enclosed whole front ['%'] text.toList [';'] rest (by simpa using hplace)
      rw [String.ofList_toList] at hinside
      exact congrArg (Option.map Lexeme.reference) hinside
  | _ => rfl

theorem Cut.eq_mk {piece : Cut} {lexeme : Lexeme} (h : piece.lexeme = lexeme) :
    piece = ⟨lexeme, piece.rest⟩ := by
  rw [← h]

-- The declarations of a definition, with every text in them cut out of it.
def declarationsBySlices? (text : String) : Option (List Declaration) :=
  ((spots text).mapM (Spot.lexeme? text)).map (declarationsFrom .between)

theorem mapM_lexeme? {whole : String} {found : List Spot} (h : ∀ spot ∈ found, spot.IsIn whole) :
    found.mapM (Spot.lexeme? whole) = some (found.map fun spot => spot.piece.lexeme) := by
  induction found with
  | nil => rfl
  | cons spot found ih =>
      obtain ⟨hspot, hfound⟩ := List.forall_mem_cons.mp h
      rw [List.mapM_cons, Spot.lexeme?_eq hspot, ih hfound]
      rfl

theorem mapM_lexeme?_spots (text : String) :
    (spots text).mapM (Spot.lexeme? text) = some (lexemes text) := by
  rw [mapM_lexeme? (isIn_of_mem_spots text), lexemes, ← map_piece_spots, List.map_map]
  rfl

theorem declarationsBySlices?_eq (text : String) :
    declarationsBySlices? text = some (declarations text) := by
  rw [declarationsBySlices?, mapM_lexeme?_spots]
  rfl

end Dtd

namespace Doctype

open Dtd (Spot cuts spots)

-- Where the last closing bracket of a text stands, in bytes.
def lastBracket? (text : List Char) : Option Nat :=
  if ']' ∈ text then some (byteCount (beforeLastBracket text)) else none

-- Where a subset that begins at `start` ends: at the last closing bracket, or with the text where
-- no closing bracket is behind the opening one.
def subsetEnd (content : String) (start : Nat) : Nat :=
  ((lastBracket? content.toList).filter (start ≤ ·)).getD content.utf8ByteSize

def subsetAt? (content : String) (start : Nat) : Option String :=
  slice? content ⟨start, subsetEnd content start⟩

theorem exists_lastBracket {text : List Char} (h : ']' ∈ text) :
    ∃ before after, text = before ++ ']' :: after ∧ ']' ∉ after := by
  obtain ⟨after, before, hsplit, hafter⟩ := List.eq_append_cons_of_mem (List.mem_reverse.mpr h)
  refine ⟨before.reverse, after.reverse, ?_, mt List.mem_reverse.mp hafter⟩
  rw [← List.reverse_reverse text, hsplit]
  simp

theorem beforeLastBracket_of_notMem {text : List Char} (h : ']' ∉ text) :
    beforeLastBracket text = text := by
  have hpass := Markup.bne_of_notMem (mt List.mem_reverse.mp h)
  rw [beforeLastBracket, List.dropWhile_eq_nil_iff.mpr hpass]

theorem subsetAt?_eq {content : String} {front rest : List Char}
    (h : content.toList = front ++ rest) :
    subsetAt? content (byteCount front) = some (String.ofList (beforeLastBracket rest)) := by
  unfold subsetAt? subsetEnd
  by_cases hrest : ']' ∈ rest
  · obtain ⟨before, after, rfl, hafter⟩ := exists_lastBracket hrest
    have hplace : content.toList = front ++ (before ++ ']' :: after) := h
    have hlast : lastBracket? content.toList = some (byteCount front + byteCount before) := by
      rw [lastBracket?, if_pos (by simp [h]), hplace, ← List.append_assoc,
        beforeLastBracket_append _ hafter, byteCount_append]
    have hkept : (lastBracket? content.toList).filter (byteCount front ≤ ·) =
        some (byteCount front + byteCount before) := by
      simp [hlast]
    rw [hkept, Option.getD_some, slice?_of_append hplace, beforeLastBracket_append _ hafter]
  · have hplace : content.toList = front ++ (rest ++ []) := by rw [h, List.append_nil]
    -- a bracket that stands before the opening one does not count
    have hdropped : (lastBracket? content.toList).filter (byteCount front ≤ ·) = none := by
      by_cases hfront : ']' ∈ front
      · obtain ⟨before, between, rfl, hbetween⟩ := exists_lastBracket hfront
        have hlast : lastBracket? content.toList = some (byteCount before) := by
          have hbehind : ']' ∉ between ++ rest := by simp [hbetween, hrest]
          rw [lastBracket?, if_pos (by simp [h]), h, List.append_assoc, List.cons_append,
            beforeLastBracket_append _ hbehind]
        have hpos := Text.byteCount_pos (List.cons_ne_nil ']' between)
        rw [hlast, byteCount_append]
        simpa using hpos
      · rw [lastBracket?, if_neg (by simp [h, hfront, hrest])]
        rfl
    rw [hdropped, Option.getD_none, utf8ByteSize_eq_of_append h, slice?_of_append hplace,
      beforeLastBracket_of_notMem hrest]

section Pure

variable {m : Type → Type} [Monad m] {α : Type} {cutter : Cutter m α} {piece : α → Dtd.Cut}

-- An item of which exactly that is cut out, without any effect, which its piece holds.
structure Cutter.Yields (cutter : Cutter m α) (piece : α → Dtd.Cut) (item : α) : Prop where
  lexeme : cutter.lexeme item = (piece item).lexeme
  name : ∀ text, (piece item).lexeme = .name text → cutter.name item text = pure text
  identifier : cutter.identifier item = pure (literal? (piece item).lexeme)
  subset : (piece item).lexeme = .openBracket →
    cutter.subset item = pure (String.ofList (beforeLastBracket (piece item).rest))

-- Where cutting up a declaration has no effect, reading it has none either, whatever the monad.
theorem readM_eq_pure [LawfulMonad m] {doctype : Doctype} {found : List α}
    (h : ∀ item ∈ found, cutter.Yields piece item) :
    readM cutter doctype found = pure (read doctype (found.map piece)) := by
  fun_induction readM cutter doctype found with
  | case1 doctype => rfl
  | case2 doctype item more text hlexeme hname ih =>
      obtain ⟨hitem, hmore⟩ := List.forall_mem_cons.mp h
      have htext := hitem.lexeme.symm.trans hlexeme
      rw [hitem.name text htext, pure_bind, ih text hmore, List.map_cons, Dtd.Cut.eq_mk htext,
        read_name, if_pos hname]
  | case3 doctype item more text hlexeme hname ih =>
      obtain ⟨hitem, hmore⟩ := List.forall_mem_cons.mp h
      have htext := hitem.lexeme.symm.trans hlexeme
      rw [ih hmore, List.map_cons, Dtd.Cut.eq_mk htext, read_name, if_neg hname]
  | case4 doctype item hlexeme =>
      have hword := (h item List.mem_cons_self).lexeme.symm.trans hlexeme
      rw [List.map_cons, Dtd.Cut.eq_mk hword]
      rfl
  | case5 doctype item hlexeme first =>
      obtain ⟨hitem, hrest⟩ := List.forall_mem_cons.mp h
      have hword := hitem.lexeme.symm.trans hlexeme
      have hfirst := (hrest first List.mem_cons_self).identifier
      rw [hfirst, pure_bind, List.map_cons, Dtd.Cut.eq_mk hword]
      rfl
  | case6 doctype item hlexeme first second later ih =>
      obtain ⟨hitem, hrest⟩ := List.forall_mem_cons.mp h
      obtain ⟨hfirst, hmore⟩ := List.forall_mem_cons.mp hrest
      obtain ⟨hsecond, hlater⟩ := List.forall_mem_cons.mp hmore
      have hword := hitem.lexeme.symm.trans hlexeme
      rw [hfirst.identifier, pure_bind, hsecond.identifier, pure_bind, ih _ _ hlater,
        List.map_cons, Dtd.Cut.eq_mk hword]
      rfl
  | case7 doctype item hlexeme =>
      have hword := (h item List.mem_cons_self).lexeme.symm.trans hlexeme
      rw [List.map_cons, Dtd.Cut.eq_mk hword]
      rfl
  | case8 doctype item hlexeme first later ih =>
      obtain ⟨hitem, hrest⟩ := List.forall_mem_cons.mp h
      obtain ⟨hfirst, hlater⟩ := List.forall_mem_cons.mp hrest
      have hword := hitem.lexeme.symm.trans hlexeme
      rw [hfirst.identifier, pure_bind, ih _ hlater, List.map_cons, Dtd.Cut.eq_mk hword]
      rfl
  | case9 doctype item more hlexeme =>
      have hitem := h item List.mem_cons_self
      have hbracket := hitem.lexeme.symm.trans hlexeme
      rw [hitem.subset hbracket, pure_bind, List.map_cons, Dtd.Cut.eq_mk hbracket,
        read_openBracket]
  | case10 doctype item more hname hpublic hsystem hbracket ih =>
      obtain ⟨hitem, hmore⟩ := List.forall_mem_cons.mp h
      rw [ih hmore, List.map_cons]
      cases hlexeme : (piece item).lexeme with
      | name text => exact (hname text (hitem.lexeme.trans hlexeme)).elim
      | publicWord => exact (hpublic (hitem.lexeme.trans hlexeme)).elim
      | systemWord => exact (hsystem (hitem.lexeme.trans hlexeme)).elim
      | openBracket => exact (hbracket (hitem.lexeme.trans hlexeme)).elim
      | _ =>
          rw [Dtd.Cut.eq_mk hlexeme]
          rfl

end Pure

-- The identifier that the next lexeme is expected to be, cut out of the whole.
def literalAt? (content : String) (spot : Spot) : Option (Option String) :=
  (spot.lexeme? content).map literal?

-- Every text is cut out of the whole.
def Cutter.bySlices (content : String) : Cutter Option Spot where
  lexeme spot := spot.piece.lexeme
  name spot _ := slice? content spot.span
  identifier := literalAt? content
  subset spot := subsetAt? content spot.span.stop

def ofTextBySlices? (content : String) : Option Doctype :=
  readM (Cutter.bySlices content) ⟨"", none, none, none⟩ (spots content)

theorem literalAt?_eq {content : String} {spot : Spot} (h : spot.IsIn content) :
    literalAt? content spot = some (literal? spot.piece.lexeme) := by
  rw [literalAt?, Spot.lexeme?_eq h, Option.map_some]

theorem slice?_name {content text : String} {rest : List Char} {span : Span}
    (h : (Spot.mk ⟨.name text, rest⟩ span).IsIn content) : slice? content span = some text := by
  obtain ⟨front, written, hplace, rfl, hspelled⟩ := h
  obtain rfl : written = text.toList := hspelled
  rw [slice?_of_append hplace, String.ofList_toList]

theorem subsetAt?_openBracket {content : String} {rest : List Char} {span : Span}
    (h : (Spot.mk ⟨.openBracket, rest⟩ span).IsIn content) :
    subsetAt? content span.stop = some (String.ofList (beforeLastBracket rest)) := by
  obtain ⟨front, written, hplace, rfl, hspelled⟩ := h
  obtain rfl : written = ['['] := hspelled
  rw [← List.append_assoc] at hplace
  rw [← subsetAt?_eq hplace, byteCount_append]

theorem yields_bySlices {content : String} {spot : Spot} (h : spot.IsIn content) :
    (Cutter.bySlices content).Yields Spot.piece spot where
  lexeme := rfl
  name text htext := by
    obtain ⟨⟨lexeme, rest⟩, span⟩ := spot
    obtain rfl : lexeme = .name text := htext
    exact slice?_name h
  identifier := literalAt?_eq h
  subset hbracket := by
    obtain ⟨⟨lexeme, rest⟩, span⟩ := spot
    obtain rfl : lexeme = .openBracket := hbracket
    exact subsetAt?_openBracket h

theorem ofTextBySlices?_eq (content : String) :
    ofTextBySlices? content = some (ofText content) := by
  have hyields := fun spot hmem => yields_bySlices (Dtd.isIn_of_mem_spots content spot hmem)
  rw [ofTextBySlices?, readM_eq_pure hyields, Dtd.map_piece_spots]
  rfl

end Doctype

end TemplateMarkup
