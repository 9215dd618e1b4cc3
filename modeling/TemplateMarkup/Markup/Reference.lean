import TemplateMarkup.Markup.Malformation

namespace TemplateMarkup

-- References to characters and entities, as they stand in text and in attribute values.
namespace Reference

-- The number of bytes of a text.
def byteCount (cs : List Char) : Nat :=
  cs.foldr (fun c count => c.utf8Size + count) 0

def digit? (radix : Nat) (c : Char) : Option Nat :=
  let value :=
    if '0' ≤ c ∧ c ≤ '9' then some (c.toNat - '0'.toNat)
    else if 'a' ≤ c ∧ c ≤ 'f' then some (c.toNat - 'a'.toNat + 10)
    else if 'A' ≤ c ∧ c ≤ 'F' then some (c.toNat - 'A'.toNat + 10)
    else none
  value.filter (· < radix)

-- Reads digits behind a number that fits in 32 bits. The first fault from the left counts.
def readDigits (radix : Nat) : Nat → List Char → Except CharReferenceFault Nat
  | number, [] => .ok number
  | number, c :: rest =>
    match digit? radix c with
    | none => .error .invalidDigit
    | some d =>
      if number * radix + d < 2 ^ 32 then readDigits radix (number * radix + d) rest
      else .error .tooLarge

def readNumber (radix : Nat) (digits : List Char) : Except CharReferenceFault Nat :=
  match digits with
  | [] => .error .empty
  | c :: _ => if c = '+' ∨ c = '-' then .error .signed else readDigits radix 0 digits

-- The character of a numeric reference, given by what stands behind the number sign.
def character (digits : List Char) : Except CharReferenceFault Char :=
  let number := match digits with
    | 'x' :: hex => readNumber 16 hex
    | _ => readNumber 10 digits
  match number with
  | .error fault => .error fault
  | .ok code =>
    if code = 0 then .error (.forbidden code)
    else if code.isValidChar then .ok (Char.ofNat code)
    else .error (.notScalar code)

-- The entities that every document has.
def predefined? (name : String) : Option String :=
  if name == "lt" then some "<"
  else if name == "gt" then some ">"
  else if name == "amp" then some "&"
  else if name == "apos" then some "'"
  else if name == "quot" then some "\""
  else none

-- What a reference stands for. `body` is the text between the ampersand and the semicolon, and
-- `start` its position.
def replacement (entity? : String → Option String) (start : Nat) (body : List Char) :
    Except ReferenceFault (List Char) :=
  match body with
  | '#' :: digits =>
    match character digits with
    | .ok c => .ok [c]
    | .error fault => .error (.character fault)
  | _ =>
    let name := String.ofList body
    match (predefined? name).or (entity? name) with
    | some text => .ok text.toList
    | none => .error (.unknownEntity start (start + byteCount body) name)

def endsBody (c : Char) : Bool :=
  c = '&' || c = ';'

-- Replaces every reference in the rest of a text. `total` is the length of the whole text and
-- `position` the place of the rest in it.
def expandFrom (entity? : String → Option String) (total position : Nat) (text : List Char) :
    Except ReferenceFault (List Char) :=
  match text with
  | [] => .ok []
  | c :: rest =>
    if c = '&' then
      let body := rest.takeWhile (!endsBody ·)
      match _h : rest.dropWhile (!endsBody ·) with
      | ';' :: after =>
        match replacement entity? (position + 1) body with
        | .error fault => .error fault
        | .ok replaced =>
          match expandFrom entity? total (position + byteCount body + 2) after with
          | .error fault => .error fault
          | .ok expanded => .ok (replaced ++ expanded)
      | _ => .error (.unterminated position total)
    else
      match expandFrom entity? total (position + c.utf8Size) rest with
      | .error fault => .error fault
      | .ok expanded => .ok (c :: expanded)
termination_by text.length
decreasing_by
  · have := (List.dropWhile_suffix (l := rest) (!endsBody ·)).length_le
    rw [_h] at this
    simp only [List.length_cons] at this ⊢
    omega
  · simp

-- Replaces every reference in a text. What a reference stands for is not read again.
def expand (entity? : String → Option String) (text : String) : Except ReferenceFault String :=
  match expandFrom entity? (byteCount text.toList) 0 text.toList with
  | .ok expanded => .ok (String.ofList expanded)
  | .error fault => .error fault

end Reference

end TemplateMarkup
