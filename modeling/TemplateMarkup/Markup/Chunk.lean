import TemplateMarkup.Markup.Malformation

namespace TemplateMarkup.Markup

-- White space in markup.
def isMarkupSpace (c : Char) : Bool :=
  c = ' ' || c = '\t' || c = '\r' || c = '\n'

-- A piece of a document. Tags are kept as they are written between their brackets.
inductive Piece where
  | text (raw : List Char)
  | startTag (content : List Char) (isEmpty : Bool)
  | endTag (name : List Char)
  | comment (text : List Char)
  | cdata (text : List Char)
  | doctype (content : List Char)
  | instruction
  deriving DecidableEq, Repr

-- A stretch of a document, what it is, and what stands behind it.
structure Chunk where
  raw : List Char
  piece : Except Malformation Piece
  rest : List Char

-- Reads on as long as `next` gives a new state. The character without one ends the stretch and
-- belongs to neither side.
def cutBefore {σ : Type} (next : σ → Char → Option σ) : σ → List Char →
    Option (List Char × List Char)
  | _, [] => none
  | state, c :: rest =>
    match next state c with
    | none => some ([], rest)
    | some state =>
      match cutBefore next state rest with
      | none => none
      | some (inside, after) => some (c :: inside, after)

-- Stops at a greater-than sign that comes behind the right characters, nearest first.
def stopsBehind (isEnd : List Char → Bool) (read : List Char) (c : Char) : Option (List Char) :=
  if c = '>' && isEnd read then none else some (c :: read)

-- A comment is at least as long as its opening and closing hyphens.
def endsComment (read : List Char) : Bool :=
  read.length ≥ 5 && ['-', '-'].isPrefixOf read

def endsCdata (read : List Char) : Bool :=
  [']', ']'].isPrefixOf read

def endsInstruction (read : List Char) : Bool :=
  ['?'].isPrefixOf read

-- Stops at a greater-than sign that has no less-than sign to go with.
def stopsBalanced (depth : Nat) (c : Char) : Option Nat :=
  if c = '<' then some (depth + 1)
  else if c = '>' then (if depth = 0 then none else some (depth - 1))
  else some depth

-- Stops at a greater-than sign outside quotes. The state is the quote that is open.
def stopsUnquoted (quote : Option Char) (c : Char) : Option (Option Char) :=
  match quote with
  | some mark => some (if c = mark then none else quote)
  | none => if c = '>' then none else if c = '"' || c = '\'' then some (some c) else some none

-- The stretch from a less-than sign to the end that `found` tells of.
def markupChunk (text : List Char) (unclosed : Malformation)
    (found : Option (List Char × List Char)) (piece : List Char → Except Malformation Piece) :
    Chunk :=
  match found with
  | none => ⟨'<' :: text, .error unclosed, []⟩
  | some (inside, rest) => ⟨'<' :: inside ++ ['>'], piece inside, rest⟩

-- A text without what must stand at its beginning.
def dropStart? (start text : List Char) : Option (List Char) :=
  if start.isPrefixOf text then some (text.drop start.length) else none

def commentPiece (inside : List Char) : Except Malformation Piece :=
  match dropStart? ['!', '-', '-'] inside with
  | some text => .ok (.comment (text.take (text.length - 2)))
  | none => .error .unclosedComment

def cdataPiece (inside : List Char) : Except Malformation Piece :=
  match dropStart? ['!', '[', 'C', 'D', 'A', 'T', 'A', '['] inside with
  | some text => .ok (.cdata (text.take (text.length - 2)))
  | none => .error .unclosedCdata

-- The keyword counts in any case, and the white space behind it is dropped.
def doctypePiece (inside : List Char) : Except Malformation Piece :=
  if (inside.take 8).map Char.toUpper = ['!', 'D', 'O', 'C', 'T', 'Y', 'P', 'E'] then
    match (inside.drop 8).dropWhile isMarkupSpace with
    | [] => .error .missingDoctypeName
    | content => .ok (.doctype content)
  else
    .error .unclosedDoctype

def instructionPiece (inside : List Char) : Except Malformation Piece :=
  if inside.length > 1 then .ok .instruction else .error .unclosedInstruction

-- White space behind the name of an end tag is dropped, unless there is nothing else.
def endTagPiece (inside : List Char) : Except Malformation Piece :=
  let name := inside.drop 1
  match (name.reverse.dropWhile isMarkupSpace).reverse with
  | [] => .ok (.endTag name)
  | trimmed => .ok (.endTag trimmed)

-- A slash at the end makes an empty element.
def startTagPiece (inside : List Char) : Except Malformation Piece :=
  if inside.getLast? = some '/' then .ok (.startTag inside.dropLast true)
  else .ok (.startTag inside false)

-- The stretch that begins with a less-than sign, given what stands behind the sign.
def cutMarkup (text : List Char) : Chunk :=
  match text with
  | [] => ⟨['<'], .error .unclosedTag, []⟩
  | '!' :: '-' :: _ =>
    markupChunk text .unclosedComment (cutBefore (stopsBehind endsComment) [] text) commentPiece
  | '!' :: '[' :: _ =>
    markupChunk text .unclosedCdata (cutBefore (stopsBehind endsCdata) [] text) cdataPiece
  | '!' :: 'D' :: _ | '!' :: 'd' :: _ =>
    markupChunk text .unclosedDoctype (cutBefore stopsBalanced 0 text) doctypePiece
  | '!' :: _ => ⟨['<'], .error .unknownMarkup, text⟩
  | '?' :: _ =>
    markupChunk text .unclosedInstruction (cutBefore (stopsBehind endsInstruction) [] text)
      instructionPiece
  | '/' :: _ =>
    markupChunk text .unclosedTag (cutBefore stopsUnquoted none text) endTagPiece
  | _ => markupChunk text .unclosedTag (cutBefore stopsUnquoted none text) startTagPiece

-- The first stretch of a text that begins with `c`.
def cutChunk (c : Char) (rest : List Char) : Chunk :=
  if c = '<' then
    cutMarkup rest
  else
    let more := rest.takeWhile (· != '<')
    ⟨c :: more, .ok (.text (c :: more)), rest.dropWhile (· != '<')⟩

theorem cutBefore_eq {σ : Type} {next : σ → Char → Option σ} {state : σ}
    {text inside rest : List Char} (h : cutBefore next state text = some (inside, rest)) :
    ∃ c state, next state c = none ∧ text = inside ++ c :: rest := by
  induction text generalizing state inside with
  | nil => simp [cutBefore] at h
  | cons c text ih =>
    rw [cutBefore] at h
    split at h
    · rename_i hn
      simp only [Option.some.injEq, Prod.mk.injEq] at h
      obtain ⟨rfl, rfl⟩ := h
      exact ⟨c, state, hn, rfl⟩
    · split at h
      · simp at h
      · rename_i hc
        simp only [Option.some.injEq, Prod.mk.injEq] at h
        obtain ⟨rfl, rfl⟩ := h
        obtain ⟨d, state, hd, he⟩ := ih hc
        exact ⟨d, state, hd, by rw [he]; rfl⟩

theorem length_markupChunk {σ : Type} {next : σ → Char → Option σ} {state : σ}
    (text : List Char) (unclosed : Malformation) (piece : List Char → Except Malformation Piece) :
    (markupChunk text unclosed (cutBefore next state text) piece).rest.length ≤ text.length := by
  unfold markupChunk
  split
  · simp
  · rename_i h
    obtain ⟨c, state, _, rfl⟩ := cutBefore_eq h
    simp only [List.length_append, List.length_cons]
    omega

theorem length_cutMarkup (text : List Char) : (cutMarkup text).rest.length ≤ text.length := by
  unfold cutMarkup
  split <;> first | exact length_markupChunk .. | exact Nat.le_refl _

theorem length_cutChunk (c : Char) (rest : List Char) :
    (cutChunk c rest).rest.length ≤ rest.length := by
  unfold cutChunk
  split
  · exact length_cutMarkup rest
  · exact (List.dropWhile_suffix _).length_le

-- All stretches of a text, up to the first one that is malformed.
def chunks (text : List Char) : List Chunk :=
  match text with
  | [] => []
  | c :: rest =>
    let chunk := cutChunk c rest
    match chunk.piece with
    | .error _ => [chunk]
    | .ok _ => chunk :: chunks chunk.rest
termination_by text.length
decreasing_by exact Nat.lt_succ_of_le (length_cutChunk c rest)

end TemplateMarkup.Markup
