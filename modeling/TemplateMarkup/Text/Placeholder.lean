import TemplateMarkup.Text.Blank
import TemplateMarkup.Text.Whitespace

namespace TemplateMarkup.Text

-- Line separators that no placeholder may hold. Unlike a carriage return or a line feed they
-- are not white space at its ends either.
def isHardBreak (c : Char) : Bool :=
  c = '\u0085' || c = '\u2028' || c = '\u2029'

-- Where a reader stands inside a placeholder: in the white space before the expression, in the
-- expression, or in the white space that a line end in it has started.
inductive PlaceholderPart where
  | lead
  | expression
  | tail
  deriving DecidableEq, Repr

namespace PlaceholderPart

-- The part after reading one more character, if the placeholder allows the character there.
def next? : PlaceholderPart → Char → Option PlaceholderPart
  | .lead, c =>
    if isLayout c then some .lead else if isHardBreak c then none else some .expression
  | .expression, c =>
    if isLineEnd c then some .tail else if isHardBreak c then none else some .expression
  | .tail, c => if isLayout c then some .tail else none

end PlaceholderPart

-- Reads up to the closing brace. `inside` holds what has been read, nearest first. Gives what
-- stands between the braces and what follows them.
def closePlaceholder? (part : PlaceholderPart) (inside : List Char) :
    List Char → Option (List Char × List Char)
  | [] => none
  | c :: rest =>
    if c = '\x7d' then
      some (inside.reverse, rest)
    else
      match part.next? c with
      | some part => closePlaceholder? part (c :: inside) rest
      | none => none

theorem length_of_closePlaceholder? {part : PlaceholderPart} {inside text : List Char}
    {found rest : List Char} (h : closePlaceholder? part inside text = some (found, rest)) :
    rest.length < text.length := by
  induction text generalizing part inside with
  | nil => simp [closePlaceholder?] at h
  | cons c text ih =>
    rw [closePlaceholder?] at h
    split at h
    · simp_all
    · split at h
      · exact Nat.lt_succ_of_lt (ih h)
      · simp at h

-- The placeholder that a text begins with, and the text after it.
def openPlaceholder? : List Char → Option (List Char × List Char)
  | '$' :: '\x7b' :: rest => closePlaceholder? .lead [] rest
  | _ => none

theorem length_of_openPlaceholder? {text found rest : List Char}
    (h : openPlaceholder? text = some (found, rest)) : rest.length < text.length := by
  unfold openPlaceholder? at h
  split at h
  · have := length_of_closePlaceholder? h
    simp only [List.length_cons]
    omega
  · simp at h

-- A step of a scan: one character that is text, or the inside of one placeholder.
inductive ScanStep where
  | char (c : Char)
  | placeholder (inside : List Char)
  deriving DecidableEq, Repr

def scanSteps (text : List Char) : List ScanStep :=
  match _h : openPlaceholder? text with
  | some (inside, rest) => .placeholder inside :: scanSteps rest
  | none =>
    match text with
    | [] => []
    | c :: rest => .char c :: scanSteps rest
termination_by text.length
decreasing_by
  · exact length_of_openPlaceholder? _h
  · simp

-- A stretch of literal text, or the expression of a placeholder.
inductive Fragment where
  | literal (text : String)
  | expansion (expression : String)
  deriving DecidableEq, Repr

namespace Fragment

-- The literal that waits, nearest character first, unless it is empty.
def pendingLiteral (waiting : List Char) : List Fragment :=
  if waiting = [] then [] else [.literal (String.ofList waiting.reverse)]

-- Joins neighbouring characters into literals.
def ofSteps (waiting : List Char) : List ScanStep → List Fragment
  | [] => pendingLiteral waiting
  | .char c :: steps => ofSteps (c :: waiting) steps
  | .placeholder inside :: steps =>
    pendingLiteral waiting ++
      .expansion (String.ofList (stripBoth isLayout inside)) :: ofSteps [] steps

-- Splits a text around its placeholders.
def split (text : String) : List Fragment :=
  ofSteps [] (scanSteps text.toList)

end Fragment

end TemplateMarkup.Text
