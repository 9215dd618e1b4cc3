import TemplateMarkup.Markup.Chunk
import TemplateMarkup.Markup.Reference

namespace TemplateMarkup.Markup

open Reference (byteCount)

-- An attribute as it is written, and where its key begins.
structure RawAttribute where
  key : List Char
  position : Nat
  value : List Char
  deriving DecidableEq, Repr

-- The next attribute of a tag and what comes behind it.
structure AttributeCut where
  attr : RawAttribute
  position : Nat
  rest : List Char

def isKeyChar (c : Char) : Bool :=
  c != '=' && !isMarkupSpace c

-- Where the same key came before.
def earlier? (seen : List RawAttribute) (key : List Char) : Option Nat :=
  (seen.find? (·.key == key)).map RawAttribute.position

-- Reads the value of an attribute, given what stands behind its equals sign. `total` is the
-- length of the whole tag.
def cutValue (total : Nat) (key : List Char) (start position : Nat) (text : List Char) :
    Except AttributeFault AttributeCut :=
  let position := position + (text.takeWhile isMarkupSpace).length
  match text.dropWhile isMarkupSpace with
  | [] => .error (.expectedValue total)
  | quote :: inside =>
    if quote = '"' || quote = '\'' then
      let value := inside.takeWhile (· != quote)
      match inside.dropWhile (· != quote) with
      | [] => .error (.unclosedQuote total quote)
      | _ :: rest => .ok ⟨⟨key, start, value⟩, position + byteCount value + 2, rest⟩
    else
      .error (.unquotedValue position)

-- Reads the next attribute, if there is one. The first character of a key may be anything. A key
-- must not be among those in `seen`.
def cutAttribute (total : Nat) (seen : List RawAttribute) (position : Nat) (text : List Char) :
    Option (Except AttributeFault AttributeCut) :=
  let start := position + (text.takeWhile isMarkupSpace).length
  match text.dropWhile isMarkupSpace with
  | [] => none
  | first :: more =>
    let key := first :: more.takeWhile isKeyChar
    let behind := more.dropWhile isKeyChar
    let position := start + byteCount key + (behind.takeWhile isMarkupSpace).length
    match behind.dropWhile isMarkupSpace with
    | '=' :: rest =>
      match earlier? seen key with
      | some previous => some (.error (.duplicate start previous))
      | none => some (cutValue total key start (position + 1) rest)
    | [] => some (.error (.expectedEquals total))
    | _ => some (.error (.expectedEquals position))

theorem length_cutValue {total : Nat} {key : List Char} {start position : Nat}
    {text : List Char} {cut : AttributeCut}
    (h : cutValue total key start position text = .ok cut) : cut.rest.length < text.length := by
  unfold cutValue at h
  have hd := (List.dropWhile_suffix (l := text) isMarkupSpace).length_le
  split at h
  · simp at h
  · rename_i quote inside he
    rw [he] at hd
    simp only [List.length_cons] at hd
    split at h
    · split at h
      · simp at h
      · rename_i d rest hr
        have hq := (List.dropWhile_suffix (l := inside) (· != quote)).length_le
        rw [hr] at hq
        simp only [Except.ok.injEq] at h
        subst h
        simp only [List.length_cons] at hq ⊢
        omega
    · simp at h

theorem length_cutAttribute {total : Nat} {seen : List RawAttribute} {position : Nat}
    {text : List Char} {cut : AttributeCut}
    (h : cutAttribute total seen position text = some (.ok cut)) :
    cut.rest.length < text.length := by
  unfold cutAttribute at h
  have hd := (List.dropWhile_suffix (l := text) isMarkupSpace).length_le
  split at h
  · simp at h
  · rename_i first more he
    have hk := (List.dropWhile_suffix (l := more) isKeyChar).length_le
    have hs := (List.dropWhile_suffix (l := more.dropWhile isKeyChar) isMarkupSpace).length_le
    rw [he] at hd
    simp only [List.length_cons] at hd
    dsimp only at h
    split at h
    · rename_i rest hr
      rw [hr] at hs
      simp only [List.length_cons] at hs
      split at h
      · simp at h
      · simp only [Option.some.injEq] at h
        have := length_cutValue h
        omega
    · simp at h
    · simp at h

-- The attributes of a tag from some place on, and the fault that ends them early. Where
-- `unique` is set, no key may come twice.
def cutAttributes (total : Nat) (unique : Bool) (seen : List RawAttribute) (position : Nat)
    (text : List Char) : List RawAttribute × Option AttributeFault :=
  match _h : cutAttribute total seen position text with
  | none => ([], none)
  | some (.error fault) => ([], some fault)
  | some (.ok cut) =>
    let seen := if unique then seen ++ [cut.attr] else []
    let more := cutAttributes total unique seen cut.position cut.rest
    (cut.attr :: more.1, more.2)
termination_by text.length
decreasing_by exact length_cutAttribute _h

def tagName (content : List Char) : List Char :=
  content.takeWhile (!isMarkupSpace ·)

def tagAttributes (unique : Bool) (content : List Char) :
    List RawAttribute × Option AttributeFault :=
  cutAttributes (byteCount content) unique [] (byteCount (tagName content))
    (content.dropWhile (!isMarkupSpace ·))

-- The label before the first colon of a name, and what stands behind it.
def splitName (name : List Char) : Option (List Char) × List Char :=
  match name.dropWhile (· != ':') with
  | [] => (none, name)
  | _ :: localName => (some (name.takeWhile (· != ':')), localName)

-- Carriage return and line feed together make one line end.
def joinLineEnds : List Char → List Char
  | '\r' :: '\n' :: rest => '\n' :: joinLineEnds rest
  | c :: rest => c :: joinLineEnds rest
  | [] => []

-- White space that is written as such in an attribute value turns into spaces.
def normalizeValue (raw : List Char) : List Char :=
  (joinLineEnds raw).map fun c => if c = '\t' || c = '\r' || c = '\n' then ' ' else c

end TemplateMarkup.Markup
