import TemplateMarkup.Proofs.Markup.Stretch
import TemplateMarkup.Proofs.Text.Placeholder

namespace TemplateMarkup.Text

open Markup (byteCount_append byteCount_eq_utf8ByteSize)
open Reference (byteCount)

-- The bytes of a text from one place up to another.
structure Span where
  start : Nat
  stop : Nat
  deriving DecidableEq, Repr

-- A span that can be cut out of a text: its ends are in order, lie within the text and divide no
-- character.
structure Span.Fits (span : Span) (text : String) : Prop where
  inOrder : span.start ≤ span.stop
  within : span.stop ≤ text.utf8ByteSize
  starts : (⟨span.start⟩ : String.Pos.Raw).IsValid text
  stops : (⟨span.stop⟩ : String.Pos.Raw).IsValid text

instance (span : Span) (text : String) : Decidable (span.Fits text) :=
  decidable_of_iff
    (span.start ≤ span.stop ∧ span.stop ≤ text.utf8ByteSize ∧
      (⟨span.start⟩ : String.Pos.Raw).IsValid text ∧ (⟨span.stop⟩ : String.Pos.Raw).IsValid text)
    ⟨fun ⟨h₁, h₂, h₃, h₄⟩ => ⟨h₁, h₂, h₃, h₄⟩, fun ⟨h₁, h₂, h₃, h₄⟩ => ⟨h₁, h₂, h₃, h₄⟩⟩

def Span.Fits.cut {span : Span} {text : String} (h : span.Fits text) : String :=
  (text.slice (text.pos ⟨span.start⟩ h.starts) (text.pos ⟨span.stop⟩ h.stops) (by
    exact h.inOrder)).copy

-- The slice of a text, if there is one.
def slice? (text : String) (span : Span) : Option String :=
  if h : span.Fits text then some h.cut else none

-- What stands between two stretches of a text can be cut out of it.
theorem slice?_append (front inside behind : String) :
    slice? (front ++ (inside ++ behind))
      ⟨front.utf8ByteSize, front.utf8ByteSize + inside.utf8ByteSize⟩ = some inside := by
  have hstop : (⟨front.utf8ByteSize + inside.utf8ByteSize⟩ : String.Pos.Raw) =
      (front ++ inside).rawEndPos := by
    rw [String.Pos.Raw.ext_iff, String.byteIdx_rawEndPos, String.utf8ByteSize_append]
  have hfits : Span.Fits ⟨front.utf8ByteSize, front.utf8ByteSize + inside.utf8ByteSize⟩
      (front ++ (inside ++ behind)) := by
    refine ⟨Nat.le_add_right _ _, ?_, ?_, ?_⟩
    · rw [String.utf8ByteSize_append, String.utf8ByteSize_append]
      exact Nat.add_le_add_left (Nat.le_add_right _ _) _
    · exact String.Pos.Raw.isValid_iff_exists_append.mpr ⟨front, inside ++ behind, rfl, rfl⟩
    · exact String.Pos.Raw.isValid_iff_exists_append.mpr
        ⟨front ++ inside, behind, String.append_assoc.symm, hstop⟩
  rw [slice?, dif_pos hfits, Option.some.injEq]
  obtain ⟨_, hcut⟩ := String.copy_slice_eq_iff_splits.mpr
    ⟨front, behind, ⟨rfl, String.offset_pos (h := hfits.starts)⟩,
      ⟨String.append_assoc.symm, (String.offset_pos (h := hfits.stops)).trans hstop⟩⟩
  exact hcut

example : slice? "né" ⟨1, 3⟩ = some "é" := by decide +kernel

-- The second byte of a character is no place to cut.
example : slice? "né" ⟨1, 2⟩ = none := by decide +kernel

theorem slice?_of_append {text : String} {front inside behind : List Char}
    (htext : text.toList = front ++ (inside ++ behind)) :
    slice? text ⟨byteCount front, byteCount front + byteCount inside⟩ =
      some (String.ofList inside) := by
  have hsplit : text = String.ofList front ++ (String.ofList inside ++ String.ofList behind) := by
    rw [← String.ofList_append, ← String.ofList_append, ← htext, String.ofList_toList]
  rw [hsplit, byteCount_eq_utf8ByteSize, byteCount_eq_utf8ByteSize, slice?_append]

-- What is left of a stretch without its first and its last bytes.
theorem slice?_enclosed {text : String} {front opening inside closing behind : List Char}
    (htext : text.toList = front ++ (opening ++ inside ++ closing ++ behind)) :
    slice? text ⟨byteCount front + byteCount opening,
        byteCount front + byteCount (opening ++ inside ++ closing) - byteCount closing⟩ =
      some (String.ofList inside) := by
  have hsplit : text.toList = front ++ opening ++ (inside ++ (closing ++ behind)) := by
    rw [htext]
    simp only [List.append_assoc]
  rw [← slice?_of_append hsplit]
  simp only [byteCount_append]
  congr 2
  omega

theorem utf8ByteSize_eq_of_append {text : String} {front behind : List Char}
    (h : text.toList = front ++ behind) :
    text.utf8ByteSize = byteCount front + byteCount behind := by
  rw [← byteCount_append, ← h, byteCount_eq_utf8ByteSize, String.ofList_toList]

theorem byteCount_pos {text : List Char} (h : text ≠ []) : 0 < byteCount text := by
  obtain ⟨c, rest, rfl⟩ := List.exists_cons_of_ne_nil h
  exact Nat.add_pos_left c.utf8Size_pos _

section Placeholders

-- Where the placeholders among the parts of a text stand, if the parts begin at `start`.
def placeholderSpans (start : Nat) : List Piece → List Span
  | [] => []
  | .stretch text :: more => placeholderSpans (start + byteCount text) more
  | .placeholder inside :: more =>
    let stop := start + byteCount (writePlaceholder inside)
    ⟨start, stop⟩ :: placeholderSpans stop more

-- The literal that takes up a span, unless the span is empty.
def literalAt? (text : String) (span : Span) : Option (List Fragment) :=
  if span.start < span.stop then (slice? text span).map fun literal => [.literal literal]
  else some []

-- The fragments of a text from `start` on, cut out of it around its placeholders. The expression of
-- a placeholder lies between its first two bytes and its last one.
def fragmentsAt? (text : String) (start : Nat) : List Span → Option (List Fragment)
  | [] => literalAt? text ⟨start, text.utf8ByteSize⟩
  | span :: more => do
    let literal ← literalAt? text ⟨start, span.start⟩
    let inside ← slice? text ⟨span.start + 2, span.stop - 1⟩
    let rest ← fragmentsAt? text span.stop more
    some (literal ++ .expansion (String.ofList (stripBoth isLayout inside.toList)) :: rest)

def Fragment.splitBySlices? (text : String) : Option (List Fragment) :=
  fragmentsAt? text 0 (placeholderSpans 0 (pieces text.toList))

variable {whole : String} {front stretch text inside rest : List Char}

theorem placeholderSpans_ended (start : Nat) (stretch : List Char) (more : List Piece) :
    placeholderSpans start (Piece.ended stretch ++ more) =
      placeholderSpans (start + byteCount stretch) more := by
  unfold Piece.ended
  split
  · rename_i hnone
    rw [hnone]
    rfl
  · rfl

theorem literalAt?_eq (h : whole.toList = front ++ (stretch ++ text)) :
    literalAt? whole ⟨byteCount front, byteCount front + byteCount stretch⟩ =
      some ((Piece.ended stretch).map Piece.fragment) := by
  unfold literalAt? Piece.ended
  by_cases hstretch : stretch = []
  · rw [if_neg (by simp [hstretch, byteCount]), if_pos hstretch]
    rfl
  · have hpos := byteCount_pos hstretch
    rw [if_pos (by dsimp only; omega), slice?_of_append h, if_neg hstretch]
    rfl

theorem slice?_inside (h : whole.toList = front ++ (writePlaceholder inside ++ rest)) :
    slice? whole ⟨byteCount front + 2, byteCount front + byteCount (writePlaceholder inside) - 1⟩ =
      some (String.ofList inside) :=
  @slice?_enclosed whole front ['$', '\x7b'] inside ['\x7d'] rest h

theorem fragmentsAt?_piecesFrom (h : whole.toList = front ++ (stretch ++ text)) :
    fragmentsAt? whole (byteCount front)
        (placeholderSpans (byteCount front) (piecesFrom stretch text)) =
      some ((piecesFrom stretch text).map Piece.fragment) := by
  induction stretch, text using piecesFrom.induct generalizing front with
  | case1 stretch text inside rest hahead ih =>
      have htext := (placeholderAhead?_eq_some_iff.mp hahead).1
      have hplace : whole.toList = front ++ stretch ++ (writePlaceholder inside ++ rest) := by
        rw [h, htext, List.append_assoc]
      have hrest : whole.toList = front ++ stretch ++ writePlaceholder inside ++ ([] ++ rest) := by
        rw [hplace, List.append_assoc _ _ ([] ++ rest), List.nil_append]
      have hinside := slice?_inside hplace
      have hmore := ih hrest
      rw [byteCount_append] at hinside
      rw [byteCount_append, byteCount_append] at hmore
      rw [piecesFrom_of_placeholder hahead, placeholderSpans_ended, placeholderSpans, fragmentsAt?,
        literalAt?_eq h, hinside, pieces]
      simp only [Option.bind_eq_bind, Option.bind_some, hmore, List.map_append, List.map_cons,
        Piece.fragment, String.toList_ofList]
  | case2 stretch =>
      have hwhole : whole.toList = front ++ stretch := by rw [h, List.append_nil]
      have hsize := utf8ByteSize_eq_of_append hwhole
      have hnone := placeholderSpans_ended (byteCount front) stretch []
      rw [List.append_nil] at hnone
      rw [piecesFrom_nil, hnone, placeholderSpans, fragmentsAt?, hsize, literalAt?_eq h]
  | case3 stretch c rest hahead ih =>
      rw [piecesFrom_of_char hahead]
      apply ih
      rw [h, List.append_assoc, List.singleton_append]

theorem Fragment.splitBySlices?_eq (text : String) :
    splitBySlices? text = some (split text) := by
  rw [splitBySlices?, split_eq_map_pieces]
  exact @fragmentsAt?_piecesFrom text [] [] text.toList rfl

end Placeholders

end TemplateMarkup.Text
