import TemplateMarkup.Proofs.Markup.Nesting
import TemplateMarkup.Proofs.Markup.Stretch

namespace TemplateMarkup.Markup

open Reference (byteCount)

-- The line of a position: one more than the line feeds among the bytes in front of it.
def lineIn (bytes : Array UInt8) (position : Nat) : Nat :=
  1 + (bytes.extract 0 position).count 10

def lineAt (text : String) (position : Nat) : Nat :=
  lineIn text.toUTF8.data position

-- A line counted a little way up falls short by the line feeds that were missed.
theorem lineIn_add (bytes : Array UInt8) {first second : Nat} (h : first ≤ second) :
    lineIn bytes first + (bytes.extract first second).count 10 = lineIn bytes second := by
  have hsplit : bytes.extract 0 first ++ bytes.extract first second = bytes.extract 0 second := by
    rw [Array.extract_append_extract, Nat.min_eq_left (Nat.zero_le _), Nat.max_eq_right h]
  rw [lineIn, lineIn, ← hsplit, Array.count_append, Nat.add_assoc]

theorem lineIn_min_size (bytes : Array UInt8) (position : Nat) :
    lineIn bytes (min position bytes.size) = lineIn bytes position := by
  rcases Nat.le_total position bytes.size with h | h
  · rw [Nat.min_eq_left h]
  · rw [Nat.min_eq_right h, lineIn, lineIn, Array.extract_eq_self_of_le h,
      Array.extract_eq_self_of_le (Nat.le_refl _)]

namespace LineCursor

variable {cursor : LineCursor} {bytes : Array UInt8}

-- A cursor that has counted the lines of some bytes up to its place.
structure Counts (cursor : LineCursor) (bytes : Array UInt8) : Prop where
  same : cursor.bytes = bytes
  counted : cursor.counted ≤ bytes.size
  line : cursor.line = lineIn bytes cursor.counted

theorem counts_ofText (text : String) : (ofText text).Counts text.toUTF8.data where
  same := rfl
  counted := Nat.zero_le _
  line := by simp [ofText, lineIn]

-- A cursor that moves on stops at the end of the bytes at the latest.
theorem Counts.counted_moveTo (h : cursor.Counts bytes) {position : Nat}
    (hposition : cursor.counted ≤ position) :
    (cursor.moveTo position).counted = min position bytes.size := by
  have hcounted := h.counted
  rw [moveTo, moveToM, h.same]
  dsimp only [bind, pure]
  split
  · omega
  · rfl

theorem Counts.moveTo (h : cursor.Counts bytes) {position : Nat}
    (hposition : cursor.counted ≤ position) : (cursor.moveTo position).Counts bytes := by
  have hcounted := h.counted_moveTo hposition
  refine ⟨?_, ?_, ?_⟩
  · rw [LineCursor.moveTo, moveToM]
    dsimp only [bind, pure]
    split <;> exact h.same
  · rw [hcounted]
    exact Nat.min_le_right _ _
  · rw [hcounted]
    rw [LineCursor.moveTo, moveToM, h.same]
    dsimp only [bind, pure]
    split
    · rename_i hback
      have hstay : min position bytes.size = cursor.counted := by
        have := h.counted
        omega
      rw [hstay]
      exact h.line
    · rename_i hahead
      change cursor.line + _ = _
      rw [h.line]
      exact lineIn_add bytes (by omega)

-- The line after a move is that of the place it goes to.
theorem Counts.line_moveTo (h : cursor.Counts bytes) {position : Nat}
    (hposition : cursor.counted ≤ position) :
    (cursor.moveTo position).line = lineIn bytes position := by
  rw [(h.moveTo hposition).line, h.counted_moveTo hposition, lineIn_min_size]

-- The lines that a cursor tells on its way from position to position.
def linesAlong (cursor : LineCursor) : List Nat → List Nat
  | [] => []
  | position :: more =>
    (cursor.moveTo position).line :: (cursor.moveTo position).linesAlong more

theorem Counts.linesAlong (h : cursor.Counts bytes) {positions : List Nat}
    (hahead : ∀ position ∈ positions, cursor.counted ≤ position)
    (hsorted : positions.Pairwise (· ≤ ·)) :
    cursor.linesAlong positions = positions.map (lineIn bytes) := by
  induction positions generalizing cursor with
  | nil => rfl
  | cons position more ih =>
      have hposition := hahead position List.mem_cons_self
      obtain ⟨hlater, hmore⟩ := List.pairwise_cons.mp hsorted
      have hnext : ∀ later ∈ more, (cursor.moveTo position).counted ≤ later := by
        intro later hmem
        rw [h.counted_moveTo hposition]
        exact Nat.le_trans (Nat.min_le_left _ _) (hlater later hmem)
      rw [LineCursor.linesAlong, h.line_moveTo hposition, ih (h.moveTo hposition) hnext hmore,
        List.map_cons]

-- A cursor that never turns back tells the lines that counting from the beginning gives. What lies
-- behind the end counts as the end.
theorem linesAlong_sorted (text : String) {positions : List Nat}
    (h : positions.Pairwise (· ≤ ·)) :
    (ofText text).linesAlong positions =
      positions.map fun position => lineAt text (min position text.utf8ByteSize) := by
  rw [(counts_ofText text).linesAlong (fun position _ => Nat.zero_le position) h]
  exact List.map_congr_left fun position _ => (lineIn_min_size _ position).symm

-- A line feed counts once it has been passed, and only once.
theorem linesAlong_sorted_lineFeeds :
    [0, 1, 2, 2, 3, 9].Pairwise (· ≤ ·) ∧
      (ofText "a\n\nb").linesAlong [0, 1, 2, 2, 3, 9] = [1, 1, 2, 2, 3, 3] := by
  have hsorted : [0, 1, 2, 2, 3, 9].Pairwise (· ≤ ·) := by decide
  refine ⟨hsorted, ?_⟩
  rw [linesAlong_sorted "a\n\nb" hsorted]
  decide +kernel

end LineCursor

-- Whether an event is the end that an empty-element tag brings of its own.
def isOwnEnd (piece : Piece) (event : Event) : Bool :=
  match piece with
  | .startTag _ isEmpty => isEmpty && isEnd event
  | _ => false

-- The events of a stretch that begin where it begins, and the ends that begin where it ends.
structure Begins (piece : Piece) (line lineAfter : Nat) (events : List PlacedEvent) : Prop where
  own : ∀ placed ∈ events, isOwnEnd piece placed.event = false → placed.line = some line
  ends : ∀ placed ∈ events, isOwnEnd piece placed.event = true → placed.line = some lineAfter

theorem Begins.of_line {piece : Piece} {line lineAfter : Nat} {events : List PlacedEvent}
    (hpiece : ∀ event, isOwnEnd piece event = false)
    (hlines : ∀ placed ∈ events, placed.line = some line) :
    Begins piece line lineAfter events where
  own placed hm _ := hlines placed hm
  ends placed hm hend := by
    rw [hpiece] at hend
    cases hend

theorem readAttribute_lines {entities : Entities} {bindings : List Binding} {line : Nat}
    {raw : RawAttribute} {before after : TagReading}
    (h : readAttribute entities bindings line before raw = .ok after) :
    ∀ placed ∈ after.bindings, placed ∈ before.bindings ∨
      placed.line = some line ∧ isEnd placed.event = false := by
  intro placed hm
  unfold readAttribute at h
  split at h
  · cases h
  · split at h
    · cases h
      exact (List.mem_append.mp hm).imp_right fun hm => by
        rw [List.mem_singleton.mp hm]
        exact ⟨rfl, rfl⟩
    · cases h
      exact (List.mem_append.mp hm).imp_right fun hm => by
        rw [List.mem_singleton.mp hm]
        exact ⟨rfl, rfl⟩
    · split at h
      · cases h
      · cases h
        exact .inl hm

theorem foldlM_readAttribute_lines {entities : Entities} {bindings : List Binding} {line : Nat}
    {raws : List RawAttribute} {before after : TagReading}
    (h : raws.foldlM (readAttribute entities bindings line) before = .ok after) :
    ∀ placed ∈ after.bindings, placed ∈ before.bindings ∨
      placed.line = some line ∧ isEnd placed.event = false := by
  induction raws generalizing before with
  | nil =>
      cases h
      exact fun placed hm => .inl hm
  | cons raw rest ih =>
      rw [List.foldlM_cons] at h
      cases hread : readAttribute entities bindings line before raw with
      | error fault => rw [hread] at h; cases h
      | ok middle =>
          rw [hread] at h
          intro placed hm
          rcases ih h placed hm with hmiddle | hline
          · exact readAttribute_lines hread placed hmiddle
          · exact .inr hline

theorem readAttributes_lines {entities : Entities} {bindings : List Binding} {line : Nat}
    {content : List Char} {tag : TagReading}
    (h : readAttributes entities bindings line content = .ok tag) :
    ∀ placed ∈ tag.bindings, placed.line = some line ∧ isEnd placed.event = false := by
  unfold readAttributes at h
  dsimp only at h
  split at h
  · cases h
  · rename_i found hfold
    split at h
    · cases h
    · cases h
      intro placed hm
      exact (foldlM_readAttribute_lines hfold placed hm).resolve_left (by simp)

-- What reading a piece on a line comes to: the events are on that line, and the place and the lines
-- counted so far stay the same.
structure Lies (reading : Reading) (piece : Piece) (line lineAfter : Nat)
    (events : List PlacedEvent) (next : Reading) : Prop where
  begins : Begins piece line lineAfter events
  position : next.position = reading.position
  cursor : next.cursor = reading.cursor

theorem readText_lies {around : Surroundings} {reading next : Reading} {line : Nat}
    {raw : List Char} {events : List PlacedEvent} (lineAfter : Nat)
    (h : readText around reading line raw = .ok (events, next)) :
    Lies reading (.text raw) line lineAfter events next := by
  unfold readText at h
  split at h
  · cases h
  · cases h
    refine ⟨.of_line (fun _ => rfl) fun placed hm => ?_, rfl, rfl⟩
    split at hm
    · cases hm
    · rw [List.mem_singleton.mp hm]

theorem readStartTag_lies {around : Surroundings} {reading next : Reading} {line lineAfter : Nat}
    {content : List Char} {isEmpty : Bool} {events : List PlacedEvent}
    (h : readStartTag around reading line lineAfter content isEmpty = .ok (events, next)) :
    Lies reading (.startTag content isEmpty) line lineAfter events next := by
  obtain ⟨bindings, tag, uri, name, -, -, htag, rfl, rfl⟩ := exists_of_readStartTag h
  have hbindings := readAttributes_lines htag
  cases isEmpty with
  | true =>
      refine ⟨⟨?_, ?_⟩, rfl, rfl⟩
      · intro placed hm hown
        simp only [if_true, List.mem_append, List.mem_cons, List.not_mem_nil, or_false] at hm
        rcases hm with hm | rfl | rfl
        · exact (hbindings placed hm).1
        · rfl
        · cases hown
      · intro placed hm hown
        simp only [if_true, List.mem_append, List.mem_cons, List.not_mem_nil, or_false] at hm
        rcases hm with hm | rfl | rfl
        · rw [isOwnEnd, (hbindings placed hm).2] at hown
          cases hown
        · cases hown
        · rfl
  | false =>
      refine ⟨.of_line (fun _ => rfl) fun placed hm => ?_, rfl, rfl⟩
      rcases List.mem_append.mp hm with hm | hm
      · exact (hbindings placed hm).1
      · rw [List.mem_singleton.mp hm]

theorem readEndTag_lies {around : Surroundings} {reading next : Reading} {line lineAfter : Nat}
    {rawName : List Char} {events : List PlacedEvent}
    (h : readEndTag around reading line lineAfter rawName = .ok (events, next)) :
    Lies reading (.endTag rawName) line lineAfter events next := by
  unfold readEndTag at h
  split at h
  · cases h
  · split at h
    · cases h
      exact ⟨.of_line (fun _ => rfl) (by simp), rfl, rfl⟩
    · cases h

theorem readDoctype_lies {around : Surroundings} {reading next : Reading} {line : Nat}
    {content : List Char} {events : List PlacedEvent} (lineAfter : Nat)
    (h : readDoctype around reading line content = .ok (events, next)) :
    Lies reading (.doctype content) line lineAfter events next := by
  obtain ⟨doctype, rfl, rfl⟩ := exists_of_readDoctype h
  exact ⟨.of_line (fun _ => rfl) (by simp), rfl, rfl⟩

theorem readChunk_lies {around : Surroundings} {reading next : Reading} {chunk : Chunk}
    {events : List PlacedEvent} (h : readChunk around reading chunk = .ok (events, next)) :
    ∃ piece, chunk.piece = .ok piece ∧
      let cursor := reading.cursor.moveTo reading.position
      let stop := reading.position + byteCount chunk.raw
      Lies { reading with position := stop, cursor := cursor } piece cursor.line
        (cursor.moveTo stop).line events next := by
  unfold readChunk readChunkM at h
  dsimp only [bind, pure, Cutter.plain] at h
  split at h
  · cases h
  · rename_i piece hpiece
    refine ⟨piece, hpiece, ?_⟩
    cases piece with
    | text raw => have hr := fun lineAfter => readText_lies lineAfter h; exact hr _
    | startTag content isEmpty => have hr := readStartTag_lies h; exact hr
    | endTag rawName => have hr := readEndTag_lies h; exact hr
    | doctype content => have hr := fun lineAfter => readDoctype_lies lineAfter h; exact hr _
    | comment text | cdata text | instruction =>
        cases h
        exact ⟨.of_line (fun _ => rfl) (by simp), rfl, rfl⟩

-- A reading whose cursor has not run ahead of it.
structure Reading.Counts (reading : Reading) (bytes : Array UInt8) : Prop where
  cursor : reading.cursor.Counts bytes
  behind : reading.cursor.counted ≤ reading.position

theorem Reading.counts_ofText (text : String) :
    (Reading.ofText text).Counts text.toUTF8.data :=
  ⟨LineCursor.counts_ofText text, Nat.le_refl 0⟩

variable {bytes : Array UInt8}

-- At the beginning of a chunk the cursor has not run ahead of the end of the chunk.
theorem Reading.Counts.behind_moveTo {reading : Reading} {size : Nat}
    (hcounts : reading.Counts bytes) :
    (reading.cursor.moveTo reading.position).counted ≤ reading.position + size := by
  rw [hcounts.cursor.counted_moveTo hcounts.behind]
  have hmin := Nat.min_le_left reading.position bytes.size
  exact Nat.le_add_right_of_le hmin

theorem Reading.Counts.line {reading : Reading} (hcounts : reading.Counts bytes) :
    (reading.cursor.moveTo reading.position).line = lineIn bytes reading.position :=
  hcounts.cursor.line_moveTo hcounts.behind

theorem Reading.Counts.lineAfter {reading : Reading} {size : Nat}
    (hcounts : reading.Counts bytes) :
    ((reading.cursor.moveTo reading.position).moveTo (reading.position + size)).line =
      lineIn bytes (reading.position + size) :=
  (hcounts.cursor.moveTo hcounts.behind).line_moveTo hcounts.behind_moveTo

theorem Reading.Counts.next {around : Surroundings} {reading next : Reading} {chunk : Chunk}
    {events : List PlacedEvent} (hcounts : reading.Counts bytes)
    (h : readChunk around reading chunk = .ok (events, next)) : next.Counts bytes := by
  obtain ⟨piece, -, hlies⟩ := readChunk_lies h
  refine ⟨?_, ?_⟩
  · rw [hlies.cursor]
    exact hcounts.cursor.moveTo hcounts.behind
  · rw [hlies.cursor, hlies.position]
    exact hcounts.behind_moveTo

-- The events of a chunk are on the lines where the chunk begins and ends.
theorem Reading.Counts.begins {around : Surroundings} {reading next : Reading} {chunk : Chunk}
    {events : List PlacedEvent} (hcounts : reading.Counts bytes)
    (h : readChunk around reading chunk = .ok (events, next)) :
    ∃ piece, chunk.piece = .ok piece ∧ Yields piece (events.map (·.event)) ∧
      Begins piece (lineIn bytes reading.position)
        (lineIn bytes (reading.position + byteCount chunk.raw)) events := by
  obtain ⟨piece, hpiece, hlies⟩ := readChunk_lies h
  obtain ⟨same, hsame, hreads⟩ := readChunk_ok h
  rw [hpiece] at hsame
  cases hsame
  refine ⟨piece, hpiece, hreads.yields, ?_⟩
  rw [← hcounts.line, ← hcounts.lineAfter]
  exact hlies.begins

-- The events of a stretch of a document: those of its piece, each on the line that `line` gives for
-- the first byte of the stretch, but for the end that an empty-element tag brings of its own, which
-- is on the line of the byte behind the stretch.
def Stretch.Gives (line : Nat → Nat) (stretch : Stretch) (events : List PlacedEvent) : Prop :=
  ∃ piece, stretch.chunk.piece = .ok piece ∧ Yields piece (events.map (·.event)) ∧
    Begins piece (line (byteCount stretch.front))
      (line (byteCount (stretch.front ++ stretch.chunk.raw))) events

-- The lines of a document as `line` gives them for its bytes. A document is read stretch by stretch
-- up to its end or to a fault, and its end has an event of its own.
def LinesBy (line : Nat → Nat) (text : String) (stream : EventStream) : Prop :=
  ∃ (groups : List (List PlacedEvent)) (closing : List PlacedEvent),
    stream.events = ⟨some 1, .documentStart⟩ :: (groups.flatten ++ closing) ∧
    List.Forall₂ (Stretch.Gives line) ((stretches text).take groups.length) groups ∧
    (stream.failure = none → groups.length = (stretches text).length ∧
      closing = [⟨some (line text.utf8ByteSize), .documentEnd⟩]) ∧
    (stream.failure ≠ none → closing = [])

-- The cursor does not know of the first bytes, which stand in front of the reading.
theorem readChunks_lines (around : Surroundings) (found : List Chunk) (reading : Reading)
    (front : List Char) (skipped : Nat) (hcounts : reading.Counts bytes)
    (hfront : byteCount front = reading.position + skipped) :
    ∃ (groups : List (List PlacedEvent)) (closing : List PlacedEvent),
      (readChunks around found reading).events = groups.flatten ++ closing ∧
      List.Forall₂ (Stretch.Gives fun position => lineIn bytes (position - skipped))
        ((stretchesBehind front found).take groups.length) groups ∧
      ((readChunks around found reading).failure = none → groups.length = found.length ∧
        closing = [⟨some (lineIn bytes (byteCount (front ++ found.flatMap (·.raw)) - skipped)),
          .documentEnd⟩]) ∧
      ((readChunks around found reading).failure ≠ none → closing = []) := by
  induction found generalizing reading front with
  | nil =>
      refine ⟨[], [⟨some (reading.cursor.moveTo reading.position).line, .documentEnd⟩], rfl, .nil,
        fun _ => ⟨rfl, ?_⟩, fun h => absurd rfl h⟩
      have hend : byteCount (front ++ ([] : List Chunk).flatMap (·.raw)) - skipped =
          reading.position := by
        rw [List.flatMap_nil, List.append_nil, hfront, Nat.add_sub_cancel]
      rw [hend, hcounts.line]
  | cons chunk more ih =>
      rw [readChunks_cons]
      cases hread : readChunk around reading chunk with
      | error fault => exact ⟨[], [], rfl, .nil, by simp [EventStream.failing], fun _ => rfl⟩
      | ok result =>
          obtain ⟨events, next⟩ := result
          obtain ⟨piece, hpiece, hyields, hbegins⟩ := hcounts.begins hread
          obtain ⟨-, -, -, hplace, -⟩ := readChunk_lies hread
          have hnext : byteCount (front ++ chunk.raw) = next.position + skipped := by
            rw [byteCount_append, hfront, hplace]
            exact Nat.add_right_comm ..
          obtain ⟨groups, closing, hevents, hgroups, hclosed, hfailed⟩ :=
            ih next (front ++ chunk.raw) (hcounts.next hread) hnext
          have hstart : byteCount front - skipped = reading.position := by
            rw [hfront, Nat.add_sub_cancel]
          have hstop : byteCount (front ++ chunk.raw) - skipped =
              reading.position + byteCount chunk.raw := by
            rw [hnext, Nat.add_sub_cancel, hplace]
          refine ⟨events :: groups, closing, ?_, ?_, fun h => ?_, hfailed⟩
          · simp [EventStream.prepend, hevents]
          · rw [stretchesBehind, List.length_cons, List.take_succ_cons]
            refine .cons ⟨piece, hpiece, hyields, ?_⟩ hgroups
            dsimp only
            rw [hstart, hstop]
            exact hbegins
          · obtain ⟨hlength, hclosing⟩ := hclosed h
            refine ⟨congrArg Nat.succ hlength, ?_⟩
            rw [hclosing, List.flatMap_cons, List.append_assoc]

-- What a byte order mark takes of the positions in a text.
def markSize (text : String) : Nat :=
  byteCount (byteOrderMark text)

theorem exists_piece_of_gives {line : Nat → Nat} {found : List Stretch}
    {groups : List (List PlacedEvent)} (h : List.Forall₂ (Stretch.Gives line) found groups) :
    ∀ stretch ∈ found, ∃ piece, stretch.chunk.piece = .ok piece := by
  induction h with
  | nil => simp
  | cons hgives _ ih =>
      intro stretch hm
      rcases List.mem_cons.mp hm with rfl | hm
      · obtain ⟨piece, hpiece, -⟩ := hgives
        exact ⟨piece, hpiece⟩
      · exact ih stretch hm

-- Every event is on the line where its markup or text begins, as the reader counts: a byte order
-- mark is left out of the positions but not of the bytes, so that behind one the line is that of a
-- place three bytes further up. Without one it is the true line.
theorem events_lines (around : Surroundings) (text : String) :
    (∀ stretch ∈ stretches text,
      ∃ rest, text.toList = stretch.front ++ stretch.chunk.raw ++ rest) ∧
    LinesBy (fun position => lineAt text (position - markSize text)) text (events around text) ∧
      (text.toList.head? ≠ some '\uFEFF' → LinesBy (lineAt text) text (events around text)) := by
  have hlines : LinesBy (fun position => lineAt text (position - markSize text)) text
      (events around text) := by
    obtain ⟨groups, closing, hevents, hgroups, hclosed, hfailed⟩ :=
      readChunks_lines around (chunks (dropMark text.toList)) (Reading.ofText text)
        (byteOrderMark text) (markSize text) (Reading.counts_ofText text)
        (Nat.zero_add (markSize text)).symm
    refine ⟨groups, closing, ?_, hgroups, fun h => ?_, hfailed⟩
    · simp [events_eq, EventStream.prepend, hevents]
    · obtain ⟨hlength, hclosing⟩ := hclosed h
      have hcount : groups.length = (stretches text).length := by
        rw [hlength, stretches, length_stretchesBehind]
      have hjoin : (chunks (dropMark text.toList)).flatMap (·.raw) = dropMark text.toList := by
        refine flatMap_raw_chunks fun chunk hm => ?_
        rw [hcount, ← stretches, List.take_length] at hgroups
        obtain ⟨front, hm⟩ := exists_mem_stretchesBehind (byteOrderMark text) hm
        obtain ⟨piece, hpiece⟩ := exists_piece_of_gives hgroups _ hm
        rw [hpiece]
        rfl
      refine ⟨hcount, ?_⟩
      rw [hclosing, hjoin, byteOrderMark_append, byteCount_eq_utf8ByteSize, String.ofList_toList]
      rfl
  refine ⟨fun stretch hm => mem_stretches hm, hlines, fun hmark => ?_⟩
  have hzero : markSize text = 0 := by
    rw [markSize, byteOrderMark, if_neg hmark]
    rfl
  simpa only [hzero, Nat.sub_zero] using hlines

-- Both the bindings of a tag over two lines and the end of an empty element, in text of more bytes
-- than characters.
def severalLines : String :=
  "<a>é\n\n<b\n xmlns='u'\n/>€</a>\n"

theorem events_lines_severalLines :
    LinesBy (lineAt severalLines) severalLines
      (events ⟨"T.tml", fun _ => .ok none⟩ severalLines) ∧
    (events ⟨"T.tml", fun _ => .ok none⟩ severalLines).events.map (·.line) =
      [some 1, some 1, some 1, some 3, some 3, some 5, some 5, some 5, some 5, some 6] :=
  ⟨(events_lines _ severalLines).2.2 (by decide +kernel), by decide +kernel⟩

-- A line feed directly in front of a tag, in a document with a byte order mark.
def markedText : String :=
  "\uFEFF<a>\n</a>"

-- The end tag is on the second line, but the reader says the first.
theorem not_lines_markedText :
    ¬ ∀ (around : Surroundings) (text : String),
      LinesBy (lineAt text) text (events around text) := by
  intro hall
  obtain ⟨groups, closing, hevents, hgroups, hclosed, -⟩ :=
    hall ⟨"T.tml", fun _ => .ok none⟩ markedText
  obtain ⟨hlength, -⟩ := hclosed (by decide +kernel)
  rw [hlength, List.take_length] at hgroups
  have hthird : (stretches markedText)[2]?.map (fun stretch =>
      (byteCount stretch.front, stretch.chunk.piece.toOption)) = some (7, some (.endTag ['a'])) := by
    decide +kernel
  obtain ⟨stretch, hstretch, hplace⟩ := Option.map_eq_some_iff.mp hthird
  obtain ⟨hfront, hpiece⟩ := Prod.mk.inj hplace
  obtain ⟨hlt, hget⟩ := List.getElem?_eq_some_iff.mp hstretch
  have hlt' : 2 < groups.length := by omega
  have hgives := hgroups.get hlt hlt'
  rw [List.get_eq_getElem, List.get_eq_getElem, hget] at hgives
  obtain ⟨piece, hok, hyields, hbegins⟩ := hgives
  rw [hok] at hpiece
  cases hpiece
  -- the group of the end tag has one event, which would have to be on the second line
  obtain ⟨placed, hm, hend⟩ : ∃ placed ∈ groups[2], isEnd placed.event = true := by
    have hmapped : ∃ event ∈ groups[2].map (·.event), isEnd event = true := by
      generalize groups[2].map (·.event) = found at hyields
      cases hyields
      exact ⟨_, List.mem_singleton_self _, rfl⟩
    obtain ⟨event, hmem, hend⟩ := hmapped
    obtain ⟨placed, hm, rfl⟩ := List.mem_map.mp hmem
    exact ⟨placed, hm, hend⟩
  have htrue := hbegins.own placed hm rfl
  rw [hfront] at htrue
  have hfirst : ∀ placed ∈ (events ⟨"T.tml", fun _ => .ok none⟩ markedText).events,
      isEnd placed.event = true → placed.line = some 1 := by
    decide +kernel
  have hsaid := hfirst placed (by
    rw [hevents]
    have hflat : placed ∈ groups.flatten :=
      List.mem_flatten.mpr ⟨groups[2], List.getElem_mem hlt', hm⟩
    simp [hflat]) hend
  rw [htrue] at hsaid
  exact absurd hsaid (by decide +kernel)

end TemplateMarkup.Markup
