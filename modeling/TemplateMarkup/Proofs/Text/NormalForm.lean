import Mathlib.Data.List.Chain
import TemplateMarkup.Proofs.Text.Compression

namespace TemplateMarkup.Text

-- The characters that compression may drop or write: space, tab, line feed, vertical tab, form
-- feed and carriage return.
def layout : List Char := [' ', '\t', '\n', '\x0b', '\x0c', '\r']

theorem mem_layout_iff (c : Char) : c ∈ layout ↔ isLayout c = true := by
  simp only [layout, isLayout, isInline, isLineEnd, Bool.or_eq_true, decide_eq_true_eq,
    List.mem_cons, List.not_mem_nil, or_false]
  tauto

-- What may follow a character of a compressed text. A space is not followed by white space that
-- would have joined it, and a line feed by none at all, since it swallows the vertical tab too.
def Fits (c d : Char) : Prop :=
  (c = ' ' → isInline d = false ∧ isLineEnd d = false) ∧ (c = '\n' → isLayout d = false)

structure IsCompressed (text : List Char) : Prop where
  plain : ∀ c ∈ text, c ∉ ['\t', '\x0c', '\r']
  chain : text.IsChain Fits

section Gaps

variable {c : Char} {front rest : List Char}

theorem isLineEnd_of_isInline (hinline : isInline c = true) : isLineEnd c = false := by
  simp only [isInline, Bool.or_eq_true, decide_eq_true_eq] at hinline
  rcases hinline with (rfl | rfl) | rfl <;> rfl

-- A vertical tab counts here as any other character does: without a line end it is kept.
theorem compressFrom_other (hinline : isInline c = false) (hend : isLineEnd c = false)
    (rest : List Char) :
    compressFrom .none (c :: rest) = c :: compressFrom .none rest ∧
      compressFrom .inline (c :: rest) = ' ' :: c :: compressFrom .none rest := by
  simp [compressFrom, hinline, hend]

theorem compressFrom_lineEnd (hend : isLineEnd c = true) (rest : List Char) :
    compressFrom .none (c :: rest) = '\n' :: compressFrom .lineEnd rest ∧
      compressFrom .inline (c :: rest) = '\n' :: compressFrom .lineEnd rest := by
  simp [compressFrom, hend]

theorem compressFrom_inline (hinline : isInline c = true) (rest : List Char) :
    compressFrom .none (c :: rest) = compressFrom .inline rest ∧
      compressFrom .inline (c :: rest) = compressFrom .inline rest := by
  simp [compressFrom, hinline, isLineEnd_of_isInline hinline]

-- A line end bears on nothing but white space.
theorem compressFrom_behind (hrest : ∀ d ∈ rest.head?, isLayout d = false) :
    compressFrom .lineEnd rest = compressFrom .none rest := by
  cases rest with
  | nil => rfl
  | cons d behind =>
      have hd : isLayout d = false := hrest d rfl
      rw [compressFrom_none_cons hd, compressFrom_cons hd]
      rfl

-- Behind a line end white space leaves nothing, and the rest is compressed for itself.
theorem compressFrom_swallow (hfront : ∀ d ∈ front, isLayout d = true)
    (hrest : ∀ d ∈ rest.head?, isLayout d = false) :
    compressFrom .lineEnd (front ++ rest) = compressFrom .none rest := by
  induction front with
  | nil => exact compressFrom_behind hrest
  | cons d front ih =>
      obtain ⟨hd, hfront⟩ := List.forall_mem_cons.mp hfront
      rw [List.cons_append, compressFrom, if_pos (by simp [hd]), ih hfront]

-- White space within a line waits until something else follows.
theorem compressFrom_wait (hfront : ∀ d ∈ front, isInline d = true) (rest : List Char) :
    compressFrom .inline (front ++ rest) = compressFrom .inline rest := by
  induction front with
  | nil => rfl
  | cons d front ih =>
      obtain ⟨hd, hfront⟩ := List.forall_mem_cons.mp hfront
      rw [List.cons_append, (compressFrom_inline hd _).2, ih hfront]

end Gaps

-- A text is what it begins with of a class of characters and what follows.
theorem exists_span (p : Char → Bool) (text : List Char) :
    ∃ front rest, text = front ++ rest ∧ (∀ d ∈ front, p d = true) ∧
      ∀ d ∈ rest.head?, p d = false := by
  rcases all_or_exists_first p text with hall | ⟨front, c, rest, rfl, hfront, hc⟩
  · exact ⟨text, [], (List.append_nil text).symm, hall, by simp⟩
  · exact ⟨front, c :: rest, rfl, hfront, by simpa using hc⟩

theorem head_compressFrom_lineEnd (text : List Char) :
    ∀ d ∈ (compressFrom .lineEnd text).head?, isLayout d = false := by
  obtain ⟨front, rest, rfl, hfront, hrest⟩ := exists_span isLayout text
  rw [compressFrom_swallow hfront hrest]
  cases rest with
  | nil => simp [compressFrom]
  | cons c behind =>
      rw [compressFrom_none_cons (hrest c rfl)]
      exact hrest

theorem IsCompressed.cons {c : Char} {text : List Char} (h : IsCompressed text)
    (hplain : c ∉ ['\t', '\x0c', '\r']) (hfits : ∀ d ∈ text.head?, Fits c d) :
    IsCompressed (c :: text) :=
  ⟨List.forall_mem_cons.mpr ⟨hplain, h.plain⟩, List.isChain_cons.mpr ⟨hfits, h.chain⟩⟩

-- Anything but a space and a line feed may be followed by what comes.
theorem IsCompressed.cons_other {c : Char} {text : List Char} (h : IsCompressed text)
    (hinline : isInline c = false) (hend : isLineEnd c = false) : IsCompressed (c :: text) := by
  simp only [isInline, isLineEnd, Bool.or_eq_false_iff, decide_eq_false_iff_not] at hinline hend
  refine h.cons (by simp [hinline, hend]) fun d _ => ⟨fun hc => ?_, fun hc => ?_⟩
  · exact absurd hc hinline.1.1
  · exact absurd hc hend.2

theorem isCompressed_compressFrom (gap : Gap) (text : List Char) :
    IsCompressed (compressFrom gap text) := by
  induction text generalizing gap with
  | nil =>
      have hempty : IsCompressed [] := ⟨nofun, .nil⟩
      cases gap with
      | inline => exact hempty.cons (by decide) nofun
      | none | lineEnd => exact hempty
  | cons c rest ih =>
      rw [compressFrom]
      split
      · exact ih .lineEnd
      · split
        · refine (ih .lineEnd).cons (by decide) fun d hd => ⟨by simp, fun _ => ?_⟩
          exact head_compressFrom_lineEnd rest d hd
        · rename_i hend
          split
          · exact ih .inline
          · rename_i hinline
            rw [Bool.not_eq_true] at hend hinline
            have hother := (ih .none).cons_other hinline hend
            split
            · refine hother.cons (by decide) fun d hd => ⟨fun _ => ?_, by simp⟩
              cases hd
              exact ⟨hinline, hend⟩
            · exact hother

-- Compression leaves a text alone that has nothing left to be compressed.
theorem IsCompressed.compressFrom_eq {text : List Char} (h : IsCompressed text) :
    compressFrom .none text = text := by
  induction text with
  | nil => rfl
  | cons c rest ih =>
      obtain ⟨hplain, hrest⟩ := List.forall_mem_cons.mp h.plain
      obtain ⟨hfits, hchain⟩ := List.isChain_cons.mp h.chain
      have hsame : compressFrom .none rest = rest := ih ⟨hrest, hchain⟩
      simp only [List.mem_cons, List.not_mem_nil, or_false, not_or] at hplain
      cases hend : isLineEnd c with
      | true =>
          have hc : c = '\n' := by simpa [isLineEnd, hplain] using hend
          have hbehind := compressFrom_behind fun d hd => (hfits d hd).2 hc
          rw [(compressFrom_lineEnd hend rest).1, hbehind, hsame, hc]
      | false =>
          cases hinline : isInline c with
          | false => rw [(compressFrom_other hinline hend rest).1, hsame]
          | true =>
              have hc : c = ' ' := by simpa [isInline, hplain] using hinline
              rw [(compressFrom_inline hinline rest).1, hc]
              cases rest with
              | nil => rfl
              | cons d behind =>
                  obtain ⟨hd, hdend⟩ := (hfits d rfl).1 hc
                  obtain ⟨hbare, hspaced⟩ := compressFrom_other hd hdend behind
                  rw [hspaced, ← hbare, hsame]

-- The compressed texts are those that compression leaves alone.
theorem compressFrom_eq_self_iff (text : List Char) :
    compressFrom .none text = text ↔ IsCompressed text :=
  ⟨fun h => h ▸ isCompressed_compressFrom .none text, IsCompressed.compressFrom_eq⟩

-- Two neighbours in a compressed text are not both a space or a line feed.
theorem Fits.not_both {c d : Char} (h : Fits c d) :
    ¬(c ∈ [' ', '\n'] ∧ d ∈ [' ', '\n']) := by
  simp only [List.mem_cons, List.not_mem_nil, or_false]
  rintro ⟨rfl | rfl, hd⟩
  · obtain ⟨hinline, hend⟩ := h.1 rfl
    rcases hd with rfl | rfl
    · cases hinline
    · cases hend
  · have hlayout := h.2 rfl
    rcases hd with rfl | rfl <;> cases hlayout

-- A compressed text stays as it is when it is compressed again. No tab, form feed or carriage
-- return is left in it, no two neighbours are both a space or a line feed, and apart from white
-- space it holds what the text held, in the same order.
theorem compress_normal (text : String) :
    compress (compress text) = compress text ∧
      (∀ c ∈ (compress text).toList, c ∉ ['\t', '\x0c', '\r']) ∧
      (compress text).toList.IsChain (fun c d => ¬(c ∈ [' ', '\n'] ∧ d ∈ [' ', '\n'])) ∧
      (compress text).toList.filter (· ∉ layout) = text.toList.filter (· ∉ layout) := by
  have hnormal := isCompressed_compressFrom .none text.toList
  have hlayout : (fun c : Char => decide (c ∉ layout)) = (!isLayout ·) := by
    funext c
    rw [decide_not, Bool.not_inj_iff, Bool.eq_iff_iff, decide_eq_true_eq, mem_layout_iff]
  refine ⟨?_, ?_, ?_, ?_⟩
  · rw [compress, compress, String.toList_ofList, (compressFrom_eq_self_iff _).mpr hnormal]
  · rw [compress, String.toList_ofList]
    exact hnormal.plain
  · rw [compress, String.toList_ofList]
    exact hnormal.chain.imp fun _ _ => Fits.not_both
  · rw [compress, String.toList_ofList, hlayout, filter_compressFrom]

end TemplateMarkup.Text
