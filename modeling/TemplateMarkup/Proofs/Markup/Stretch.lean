import TemplateMarkup.Markup.Document

namespace TemplateMarkup.Markup

open Reference (byteCount)

theorem byteCount_append (first second : List Char) :
    byteCount (first ++ second) = byteCount first + byteCount second := by
  induction first with
  | nil => simp [byteCount]
  | cons c first ih =>
      simp only [byteCount, List.cons_append, List.foldr_cons] at ih ⊢
      omega

theorem byteCount_eq_utf8ByteSize (cs : List Char) :
    byteCount cs = (String.ofList cs).utf8ByteSize := by
  induction cs with
  | nil => rfl
  | cons c cs ih =>
      simp only [byteCount, List.foldr_cons] at ih ⊢
      rw [ih, String.ofList_cons, String.utf8ByteSize_append, String.utf8ByteSize_singleton]

section Stops

-- A reading stops at nothing but a greater-than sign.
def StopsAtBracket {σ : Type} (next : σ → Char → Option σ) : Prop :=
  ∀ state c, next state c = none → c = '>'

theorem stopsAtBracket_behind (isEnd : List Char → Bool) : StopsAtBracket (stopsBehind isEnd) := by
  intro read c h
  unfold stopsBehind at h
  split at h
  · rename_i hc
    simp only [Bool.and_eq_true, decide_eq_true_eq] at hc
    exact hc.1
  · cases h

theorem stopsAtBracket_balanced : StopsAtBracket stopsBalanced := by
  intro depth c h
  unfold stopsBalanced at h
  split at h
  · cases h
  · split at h
    · assumption
    · cases h

theorem stopsAtBracket_unquoted : StopsAtBracket stopsUnquoted := by
  intro quote c h
  unfold stopsUnquoted at h
  split at h
  · cases h
  · split at h
    · assumption
    · split at h <;> cases h

theorem markupChunk_raw {σ : Type} {next : σ → Char → Option σ} (hstops : StopsAtBracket next)
    (state : σ) (text : List Char) (unclosed : Malformation)
    (piece : List Char → Except Malformation Piece) :
    let chunk := markupChunk text unclosed (cutBefore next state text) piece
    chunk.raw ++ chunk.rest = '<' :: text := by
  unfold markupChunk
  split
  · simp
  · rename_i inside rest hcut
    obtain ⟨c, last, hlast, rfl⟩ := cutBefore_eq hcut
    rw [hstops last c hlast]
    simp

end Stops

theorem cutMarkup_raw (text : List Char) :
    (cutMarkup text).raw ++ (cutMarkup text).rest = '<' :: text := by
  unfold cutMarkup
  split
  · rfl
  · exact markupChunk_raw (stopsAtBracket_behind _) ..
  · exact markupChunk_raw (stopsAtBracket_behind _) ..
  · exact markupChunk_raw stopsAtBracket_balanced ..
  · exact markupChunk_raw stopsAtBracket_balanced ..
  · rfl
  · exact markupChunk_raw (stopsAtBracket_behind _) ..
  · exact markupChunk_raw stopsAtBracket_unquoted ..
  · exact markupChunk_raw stopsAtBracket_unquoted ..

-- A cut loses nothing.
theorem cutChunk_raw (c : Char) (rest : List Char) :
    (cutChunk c rest).raw ++ (cutChunk c rest).rest = c :: rest := by
  unfold cutChunk
  split
  · rename_i hc
    rw [hc]
    exact cutMarkup_raw rest
  · simp

theorem chunks_cons (c : Char) (rest : List Char) :
    chunks (c :: rest) = cutChunk c rest ::
      if (cutChunk c rest).piece.isOk then chunks (cutChunk c rest).rest else [] := by
  rw [chunks]
  cases (cutChunk c rest).piece <;> rfl

-- The chunks of a text without a malformed one make it up.
theorem flatMap_raw_chunks {text : List Char} (h : ∀ chunk ∈ chunks text, chunk.piece.isOk = true) :
    (chunks text).flatMap (·.raw) = text := by
  match text with
  | [] => simp [chunks]
  | c :: rest =>
      have hlength := length_cutChunk c rest
      rw [chunks_cons] at h ⊢
      have hok := h _ List.mem_cons_self
      rw [if_pos hok] at h ⊢
      have ih := flatMap_raw_chunks fun chunk hm => h chunk (List.mem_cons_of_mem _ hm)
      rw [List.flatMap_cons, ih, cutChunk_raw]
termination_by text.length

-- A chunk and all that stands in front of it in its document.
structure Stretch where
  front : List Char
  chunk : Chunk

def stretchesBehind (front : List Char) : List Chunk → List Stretch
  | [] => []
  | chunk :: more => ⟨front, chunk⟩ :: stretchesBehind (front ++ chunk.raw) more

-- The byte order mark of a text.
def byteOrderMark (text : String) : List Char :=
  if text.toList.head? = some '\uFEFF' then ['\uFEFF'] else []

-- The chunks of a document at their places.
def stretches (text : String) : List Stretch :=
  stretchesBehind (byteOrderMark text) (chunks (dropMark text.toList))

theorem byteOrderMark_append (text : String) :
    byteOrderMark text ++ dropMark text.toList = text.toList := by
  unfold byteOrderMark
  cases text.toList with
  | nil => rfl
  | cons c rest =>
      by_cases hc : c = '\uFEFF'
      · simp [dropMark, hc]
      · simp [dropMark, hc]

@[simp] theorem length_stretchesBehind (front : List Char) (found : List Chunk) :
    (stretchesBehind front found).length = found.length := by
  induction found generalizing front with
  | nil => rfl
  | cons chunk more ih => simp [stretchesBehind, ih]

theorem exists_mem_stretchesBehind (front : List Char) {found : List Chunk} {chunk : Chunk}
    (h : chunk ∈ found) : ∃ before, ⟨before, chunk⟩ ∈ stretchesBehind front found := by
  induction found generalizing front with
  | nil => cases h
  | cons first more ih =>
      rcases List.mem_cons.mp h with rfl | h
      · exact ⟨front, List.mem_cons_self⟩
      · obtain ⟨before, hbefore⟩ := ih (front ++ first.raw) h
        exact ⟨before, List.mem_cons_of_mem _ hbefore⟩

theorem mem_stretchesBehind {text front : List Char} {stretch : Stretch}
    (h : stretch ∈ stretchesBehind front (chunks text)) :
    ∃ rest, front ++ text = stretch.front ++ stretch.chunk.raw ++ rest := by
  match text with
  | [] =>
      rw [chunks] at h
      cases h
  | c :: rest =>
      have hraw := cutChunk_raw c rest
      have hlength := length_cutChunk c rest
      rw [chunks_cons, stretchesBehind] at h
      rcases List.mem_cons.mp h with rfl | h
      · refine ⟨(cutChunk c rest).rest, ?_⟩
        rw [← hraw, List.append_assoc]
      · split at h
        · obtain ⟨behind, hbehind⟩ := mem_stretchesBehind h
          refine ⟨behind, ?_⟩
          rw [← hbehind, ← hraw, List.append_assoc]
        · cases h
termination_by text.length

-- Every chunk is a part of the text, behind the part that is in front of it.
theorem mem_stretches {text : String} {stretch : Stretch} (h : stretch ∈ stretches text) :
    ∃ rest, text.toList = stretch.front ++ stretch.chunk.raw ++ rest := by
  obtain ⟨rest, hrest⟩ := mem_stretchesBehind h
  rw [byteOrderMark_append] at hrest
  exact ⟨rest, hrest⟩

end TemplateMarkup.Markup
