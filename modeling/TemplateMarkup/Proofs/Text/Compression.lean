import TemplateMarkup.Proofs.Text.Placeholder

namespace TemplateMarkup.Text

section Compression

variable {gap : Gap} {c : Char} {text inside rest : List Char}

theorem isLayout_of_isInline {c : Char} (h : isInline c = true) : isLayout c = true := by
  simp [isLayout, h]

-- Anything but white space is kept, and what stands in front of it is compressed for itself.
theorem compressFrom_append_cons (hc : isLayout c = false) (gap : Gap) (front rest : List Char) :
    compressFrom gap (front ++ c :: rest) =
      compressFrom gap front ++ c :: compressFrom .none rest := by
  have hinline := mt isLayout_of_isInline (Bool.eq_false_iff.mp hc)
  have hend := mt isLayout_of_isLineEnd (Bool.eq_false_iff.mp hc)
  induction front generalizing gap with
  | nil => cases gap <;> simp [compressFrom, hc, hinline, hend]
  | cons d front ih =>
      rw [List.cons_append, compressFrom, compressFrom]
      split
      · exact ih .lineEnd
      · split
        · rw [ih, List.cons_append]
        · split
          · exact ih .inline
          · split
            · rw [ih, List.cons_append, List.cons_append]
            · rw [ih, List.cons_append]

theorem compressFrom_cons (hc : isLayout c = false) (gap : Gap) (rest : List Char) :
    compressFrom gap (c :: rest) = compressFrom gap [] ++ c :: compressFrom .none rest :=
  compressFrom_append_cons hc gap [] rest

theorem compressFrom_none_cons (hc : isLayout c = false) (rest : List Char) :
    compressFrom .none (c :: rest) = c :: compressFrom .none rest :=
  compressFrom_append_cons hc .none [] rest

-- Compression drops and adds nothing but white space.
theorem filter_compressFrom (gap : Gap) (text : List Char) :
    (compressFrom gap text).filter (!isLayout ·) = text.filter (!isLayout ·) := by
  induction text generalizing gap with
  | nil => cases gap <;> rfl
  | cons c rest ih =>
      have hspace : isLayout ' ' = true := rfl
      have hfeed : isLayout '\n' = true := rfl
      rw [compressFrom]
      split
      · rename_i h
        have hc := (Bool.and_eq_true_iff.mp h).2
        rw [ih, List.filter_cons_of_neg (by simp [hc])]
      · split
        · rename_i h
          rw [List.filter_cons_of_neg (by simp [hfeed]), ih,
            List.filter_cons_of_neg (by simp [isLayout_of_isLineEnd h])]
        · split
          · rename_i h
            rw [ih, List.filter_cons_of_neg (by simp [isLayout_of_isInline h])]
          · split
            · rw [List.filter_cons_of_neg (by simp [hspace]), List.filter_cons, List.filter_cons, ih]
            · rw [List.filter_cons, List.filter_cons, ih]

theorem mem_compressFrom_iff (hc : isLayout c = false) :
    c ∈ compressFrom gap text ↔ c ∈ text := by
  have hfilter := congrArg (c ∈ ·) (filter_compressFrom gap text)
  simpa [hc] using hfilter

theorem all_isLayout_compressFrom (gap : Gap) (text : List Char) :
    (compressFrom gap text).all isLayout = text.all isLayout := by
  have hnone : ∀ cs : List Char, cs.all isLayout = true ↔ cs.filter (!isLayout ·) = [] := by
    intro cs
    simp
  rw [Bool.eq_iff_iff, hnone, hnone, filter_compressFrom]

-- Where no line end has been written yet, the first one is.
theorem any_isLineEnd_compressFrom (hgap : gap ≠ .lineEnd) (text : List Char) :
    (compressFrom gap text).any isLineEnd = text.any isLineEnd := by
  induction text generalizing gap with
  | nil => cases gap <;> rfl
  | cons c rest ih =>
      rw [compressFrom]
      split
      · rename_i h
        simp [hgap] at h
      · split
        · rename_i h
          simp [h, show isLineEnd '\n' = true from rfl]
        · rename_i hend
          have hrest : (c :: rest).any isLineEnd = rest.any isLineEnd := by
            simp [hend]
          rw [hrest]
          split
          · exact ih (by decide)
          · split
            · simp [hend, ih, show isLineEnd ' ' = false from rfl]
            · simp [hend, ih]

theorem any_isBreak (text : List Char) :
    text.any isBreak = (text.any isLineEnd || text.any isHardBreak) := by
  induction text with
  | nil => rfl
  | cons c rest ih =>
      simp only [List.any_cons, ih, isBreak]
      cases isLineEnd c <;> cases isHardBreak c <;> simp

theorem any_isBreak_compressFrom (text : List Char) :
    (compressFrom .none text).any isBreak = text.any isBreak := by
  have hhard : (compressFrom .none text).any isHardBreak = text.any isHardBreak := by
    rw [Bool.eq_iff_iff, List.any_eq_true, List.any_eq_true]
    constructor
    · rintro ⟨c, hc, hbreak⟩
      exact ⟨c, (mem_compressFrom_iff (isLayout_of_isHardBreak hbreak)).mp hc, hbreak⟩
    · rintro ⟨c, hc, hbreak⟩
      exact ⟨c, (mem_compressFrom_iff (isLayout_of_isHardBreak hbreak)).mpr hc, hbreak⟩
  rw [any_isBreak, any_isBreak, any_isLineEnd_compressFrom (by decide), hhard]

-- A text of white space alone, or one with something else in it, which is cut at the first such
-- character.
theorem all_or_exists_first (p : Char → Bool) (text : List Char) :
    (∀ c ∈ text, p c = true) ∨
      ∃ front c rest, text = front ++ c :: rest ∧ (∀ d ∈ front, p d = true) ∧ p c = false := by
  induction text with
  | nil => exact .inl nofun
  | cons c rest ih =>
      cases hc : p c with
      | false => exact .inr ⟨[], c, rest, rfl, nofun, hc⟩
      | true =>
          rcases ih with hall | ⟨front, d, behind, rfl, hfront, hd⟩
          · exact .inl (List.forall_mem_cons.mpr ⟨hc, hall⟩)
          · exact .inr ⟨c :: front, d, behind, rfl, List.forall_mem_cons.mpr ⟨hc, hfront⟩, hd⟩

theorem dropWhile_compressFrom (text : List Char) :
    (compressFrom .none text).dropWhile isLayout = compressFrom .none (text.dropWhile isLayout) := by
  rcases all_or_exists_first isLayout text with hall | ⟨front, c, rest, rfl, hfront, hc⟩
  · have hcompressed : (compressFrom .none text).all isLayout = true := by
      rw [all_isLayout_compressFrom]
      exact List.all_eq_true.mpr hall
    rw [List.dropWhile_eq_nil_iff.mpr hall,
      List.dropWhile_eq_nil_iff.mpr (List.all_eq_true.mp hcompressed)]
    rfl
  · have hcompressed : (compressFrom .none front).all isLayout = true := by
      rw [all_isLayout_compressFrom]
      exact List.all_eq_true.mpr hfront
    rw [compressFrom_append_cons hc,
      List.dropWhile_append_of_pos (List.all_eq_true.mp hcompressed),
      List.dropWhile_append_of_pos hfront, List.dropWhile_cons_of_neg (by simp [hc]),
      List.dropWhile_cons_of_neg (by simp [hc]), compressFrom_none_cons hc]

theorem rdropWhile_append_cons {p : Char → Bool} (hc : p c = false) (front : List Char)
    {tail : List Char} (htail : ∀ d ∈ tail, p d = true) :
    (front ++ c :: tail).rdropWhile p = front ++ [c] := by
  have hback : ∀ d ∈ tail.reverse, p d = true := fun d hd => htail d (List.mem_reverse.mp hd)
  rw [List.rdropWhile, List.reverse_append, List.reverse_cons, List.append_assoc,
    List.dropWhile_append_of_pos hback, List.singleton_append,
    List.dropWhile_cons_of_neg (by simp [hc]), List.reverse_cons, List.reverse_reverse]

theorem rdropWhile_compressFrom (text : List Char) :
    (compressFrom .none text).rdropWhile isLayout =
      compressFrom .none (text.rdropWhile isLayout) := by
  rcases all_or_exists_first isLayout text.reverse with hall | ⟨tail, c, front, htext, htail, hc⟩
  · have hblank : text.all isLayout = true := by
      rw [← List.all_reverse]
      exact List.all_eq_true.mpr hall
    have hcompressed := (all_isLayout_compressFrom .none text).trans hblank
    rw [List.rdropWhile_eq_nil_iff.mpr (List.all_eq_true.mp hblank),
      List.rdropWhile_eq_nil_iff.mpr (List.all_eq_true.mp hcompressed)]
    rfl
  · have hsplit : text = front.reverse ++ c :: tail.reverse := by
      rw [← List.reverse_reverse text, htext, List.reverse_append, List.reverse_cons,
        List.append_assoc, List.singleton_append]
    have htail' : ∀ d ∈ tail.reverse, isLayout d = true :=
      fun d hd => htail d (List.mem_reverse.mp hd)
    have hcompressed : (compressFrom .none tail.reverse).all isLayout = true := by
      rw [all_isLayout_compressFrom]
      exact List.all_eq_true.mpr htail'
    have hhere := compressFrom_append_cons hc .none front.reverse []
    rw [hsplit, compressFrom_append_cons hc, rdropWhile_append_cons hc _ htail',
      rdropWhile_append_cons hc _ (List.all_eq_true.mp hcompressed), hhere]
    rfl

-- White space around a text changes nothing of what is left of it.
theorem stripBoth_compressFrom (text : List Char) :
    stripBoth isLayout (compressFrom .none text) = compressFrom .none (stripBoth isLayout text) := by
  have hfront := dropWhile_compressFrom text
  have hback := rdropWhile_compressFrom (text.dropWhile isLayout)
  rw [← hfront] at hback
  exact hback

-- What has been put off is written before anything else.
theorem exists_compressFrom_inline (text : List Char) :
    ∃ d behind, compressFrom .inline text = d :: behind ∧ isLayout d = true := by
  induction text with
  | nil => exact ⟨' ', [], rfl, rfl⟩
  | cons c rest ih =>
      rw [compressFrom, if_neg (by simp)]
      split
      · exact ⟨'\n', _, rfl, rfl⟩
      · split
        · exact ih
        · exact ⟨' ', _, rfl, rfl⟩

-- White space is compressed to something that begins with white space.
theorem exists_compressFrom_layout (hc : isLayout c = true) (rest : List Char) :
    ∃ d behind, compressFrom .none (c :: rest) = d :: behind ∧ isLayout d = true := by
  rw [compressFrom, if_neg (by simp)]
  split
  · exact ⟨'\n', _, rfl, rfl⟩
  · split
    · exact exists_compressFrom_inline rest
    · exact ⟨c, _, rfl, hc⟩

-- What is found ahead of a text is found in the compressed text.
theorem placeholderAhead?_compressFrom (text : List Char) :
    placeholderAhead? ('$' :: compressFrom .none text) =
      (placeholderAhead? ('$' :: text)).map fun found =>
        (compressFrom .none found.1, compressFrom .none found.2) := by
  cases text with
  | nil => rfl
  | cons c rest =>
      cases hc : isLayout c with
      | true =>
          have hbrace : ∀ d, isLayout d = true → d ≠ '\x7b' := by
            rintro _ hd rfl
            cases hd
          obtain ⟨d, behind, hcompressed, hd⟩ := exists_compressFrom_layout hc rest
          rw [hcompressed, placeholderAhead?_of_second_ne (hbrace d hd),
            placeholderAhead?_of_second_ne (hbrace c hc)]
          rfl
      | false =>
          rw [compressFrom_none_cons hc]
          by_cases hbrace : c = '\x7b'
          · subst hbrace
            have hclosing : isLayout '\x7d' = false := rfl
            by_cases hclose : '\x7d' ∈ rest
            · obtain ⟨inside, behind, rfl, hinside⟩ := List.eq_append_cons_of_mem hclose
              have hcompressed : '\x7d' ∉ compressFrom .none inside :=
                mt (mem_compressFrom_iff hclosing).mp hinside
              rw [compressFrom_append_cons hclosing, placeholderAhead?_closed hcompressed,
                placeholderAhead?_closed hinside, stripBoth_compressFrom, any_isBreak_compressFrom]
              cases (stripBoth isLayout inside).any isBreak <;> rfl
            · have hcompressed : '\x7d' ∉ compressFrom .none rest :=
                mt (mem_compressFrom_iff hclosing).mp hclose
              rw [placeholderAhead?_unclosed hcompressed, placeholderAhead?_unclosed hclose]
              rfl
          · rw [placeholderAhead?_of_second_ne hbrace, placeholderAhead?_of_second_ne hbrace]
            rfl

theorem compressFrom_eq_nil_iff : compressFrom .none text = [] ↔ text = [] := by
  cases text with
  | nil => simp [compressFrom]
  | cons c rest =>
      cases hc : isLayout c with
      | true =>
          obtain ⟨d, behind, hcompressed, -⟩ := exists_compressFrom_layout hc rest
          simp [hcompressed]
      | false => simp [compressFrom_none_cons hc]

-- A dollar sign is written where it is read, and nowhere else.
theorem exists_compressFrom_cons (gap : Gap) (hc : c ≠ '$') :
    ∃ written next, (∀ rest, compressFrom gap (c :: rest) = written ++ compressFrom next rest) ∧
      '$' ∉ written := by
  by_cases hswallowed : (gap = .lineEnd && isLayout c) = true
  · refine ⟨[], .lineEnd, fun rest => ?_, by simp⟩
    rw [compressFrom, if_pos hswallowed, List.nil_append]
  · by_cases hend : isLineEnd c = true
    · refine ⟨['\n'], .lineEnd, fun rest => ?_, by simp⟩
      rw [compressFrom, if_neg hswallowed, if_pos hend, List.singleton_append]
    · by_cases hinline : isInline c = true
      · refine ⟨[], .inline, fun rest => ?_, by simp⟩
        rw [compressFrom, if_neg hswallowed, if_neg hend, if_pos hinline, List.nil_append]
      · refine ⟨if gap = .inline then [' ', c] else [c], .none, fun rest => ?_, ?_⟩
        · rw [compressFrom, if_neg hswallowed, if_neg hend, if_neg hinline]
          split <;> rfl
        · split <;> simp [hc.symm]

end Compression

namespace Piece

-- A part with its text compressed.
def compressed : Piece → Piece
  | .stretch text => .stretch (compressFrom .none text)
  | .placeholder inside => .placeholder (compressFrom .none inside)

theorem map_compressed_ended (stretch : List Char) :
    (ended stretch).map compressed = ended (compressFrom .none stretch) := by
  unfold ended
  simp only [compressFrom_eq_nil_iff]
  split <;> rfl

end Piece

section Parts

variable {gap : Gap} {stretch written text rest : List Char}

-- Text without a dollar sign goes on with a stretch.
theorem piecesFrom_append (h : '$' ∉ rest) (stretch text : List Char) :
    piecesFrom stretch (rest ++ text) = piecesFrom (stretch ++ rest) text := by
  induction rest generalizing stretch with
  | nil => rw [List.nil_append, List.append_nil]
  | cons c rest ih =>
      have hc : c ≠ '$' := fun hc => h (hc ▸ List.mem_cons_self)
      have hrest : '$' ∉ rest := fun hrest => h (List.mem_cons_of_mem c hrest)
      rw [List.cons_append, piecesFrom_of_char (placeholderAhead?_of_ne hc _), ih hrest,
        List.append_assoc]
      rfl

-- What compression leaves to be written is white space.
theorem notMem_compressFrom_nil (gap : Gap) : '$' ∉ compressFrom gap [] := by
  cases gap <;> decide

-- The parts of a compressed text. Behind `stretch` compression has written `written` and stands
-- in `gap`.
theorem piecesFrom_compressFrom
    (h : ∀ behind, compressFrom .none (stretch ++ behind) = written ++ compressFrom gap behind) :
    piecesFrom written (compressFrom gap text) = (piecesFrom stretch text).map Piece.compressed := by
  have hdollar : isLayout '$' = false := rfl
  induction stretch, text using piecesFrom.induct generalizing written gap with
  | case1 stretch text inside rest hahead ih =>
      obtain ⟨behind, rfl⟩ : ∃ behind, text = '$' :: behind :=
        ⟨_, (placeholderAhead?_eq_some_iff.mp hahead).1⟩
      have hcompressed := placeholderAhead?_compressFrom behind
      rw [hahead] at hcompressed
      have hstretch := h []
      rw [List.append_nil] at hstretch
      rw [compressFrom_cons hdollar, piecesFrom_append (notMem_compressFrom_nil gap),
        piecesFrom_of_placeholder hcompressed, piecesFrom_of_placeholder hahead, List.map_append,
        Piece.map_compressed_ended, hstretch, List.map_cons, pieces, pieces, ih fun _ => rfl]
      rfl
  | case2 stretch =>
      have hstretch := h []
      rw [List.append_nil] at hstretch
      have happend := piecesFrom_append (notMem_compressFrom_nil gap) written []
      rw [List.append_nil] at happend
      rw [happend, piecesFrom_nil, piecesFrom_nil, Piece.map_compressed_ended, hstretch]
  | case3 stretch c rest hahead ih =>
      rw [piecesFrom_of_char hahead]
      by_cases hc : c = '$'
      · subst hc
        have hcompressed := placeholderAhead?_compressFrom rest
        rw [hahead] at hcompressed
        rw [compressFrom_cons hdollar, piecesFrom_append (notMem_compressFrom_nil gap),
          piecesFrom_of_char hcompressed]
        apply ih
        intro behind
        rw [List.append_assoc, List.singleton_append, h, compressFrom_cons hdollar]
        simp only [List.append_assoc, List.singleton_append]
      · obtain ⟨new, next, hnew, hwritten⟩ := exists_compressFrom_cons gap hc
        rw [hnew, piecesFrom_append hwritten]
        apply ih
        intro behind
        rw [List.append_assoc, List.singleton_append, h, hnew, List.append_assoc]

end Parts

namespace Fragment

-- A fragment with its text changed.
def mapText (change : String → String) : Fragment → Fragment
  | .literal text => .literal (change text)
  | .expansion expression => .expansion (change expression)

theorem fragment_compressed (piece : Piece) :
    piece.compressed.fragment = piece.fragment.mapText compress := by
  cases piece with
  | stretch text => simp [Piece.compressed, Piece.fragment, mapText, compress]
  | placeholder inside =>
      simp [Piece.compressed, Piece.fragment, mapText, compress, stripBoth_compressFrom]

-- Splitting a compressed text gives the compressed fragments of the text.
theorem split_compress (text : String) :
    split (compress text) = (split text).map (mapText compress) := by
  have hpieces : pieces (compressFrom .none text.toList) =
      (pieces text.toList).map Piece.compressed := piecesFrom_compressFrom fun _ => rfl
  rw [split_eq_map_pieces, split_eq_map_pieces, compress, String.toList_ofList, hpieces,
    List.map_map, List.map_map]
  apply List.map_congr_left
  intro piece _
  exact fragment_compressed piece

end Fragment

end TemplateMarkup.Text
