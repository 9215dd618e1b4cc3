import TemplateMarkup.Toml.Value

namespace TemplateMarkup.Toml

-- Digits with single underscores between them, without the underscores.
def plainDigits? (isDigit : Char → Bool) : List Char → Option (List Char)
  | [] => none
  | [c] => if isDigit c then some [c] else none
  | c :: '_' :: rest => if isDigit c then (plainDigits? isDigit rest).map (c :: ·) else none
  | c :: rest => if isDigit c then (plainDigits? isDigit rest).map (c :: ·) else none

-- The digits of a decimal number, which has no zero in front.
def decimalDigits? (text : List Char) : Option (List Char) :=
  match plainDigits? Char.isDigit text with
  | some ('0' :: _ :: _) => none
  | found => found

-- Splits a sign off.
def splitSign : List Char → Bool × List Char
  | '-' :: rest => (true, rest)
  | '+' :: rest => (false, rest)
  | text => (false, text)

def isBinaryDigit (c : Char) : Bool :=
  c = '0' || c = '1'

def isOctalDigit (c : Char) : Bool :=
  '0' ≤ c && c ≤ '7'

def radixInteger? (radix : Nat) (isDigit : Char → Bool) (text : List Char) : Option Int :=
  (plainDigits? isDigit text).map fun digits => digitsValue radix digits

def integer? (text : List Char) : Option Int :=
  match text with
  | '0' :: 'x' :: rest => radixInteger? 16 (fun c => (hexValue? c).isSome) rest
  | '0' :: 'o' :: rest => radixInteger? 8 isOctalDigit rest
  | '0' :: 'b' :: rest => radixInteger? 2 isBinaryDigit rest
  | _ =>
    let (negative, digits) := splitSign text
    (decimalDigits? digits).map fun digits =>
      let number : Int := digitsValue 10 digits
      if negative then -number else number

-- A decimal fraction: the digits of a whole number, and the power of ten that it is taken times.
structure Decimal where
  digits : List Char
  exponent : Int

namespace Decimal

-- The least number that double precision no longer rounds to a finite one: the power of two
-- behind the largest double, less half the last step before it.
def overflowLimit : Nat :=
  Nat.pow 2 1024 - Nat.pow 2 970

-- Whether a number is at least the limit. Most are told by the place of their first digit
-- alone, since the limit has 309 digits.
def overflows (decimal : Decimal) : Bool :=
  let significant := decimal.digits.dropWhile (· == '0')
  let places : Int := significant.length + decimal.exponent
  if significant.isEmpty || places < 309 then false
  else if 309 < places then true
  else
    match decimal.exponent with
    | .ofNat e => overflowLimit ≤ digitsValue 10 significant * Nat.pow 10 e
    | .negSucc e => overflowLimit * Nat.pow 10 (e + 1) ≤ digitsValue 10 significant

end Decimal

-- An exponent is a signed number that may have zeros in front. Beyond 65536, which no document
-- makes up for, further digits do not count.
def exponent? (text : List Char) : Option Int :=
  let (negative, digits) := splitSign text
  (plainDigits? Char.isDigit digits).map fun digits =>
    let number := digits.foldl
      (fun number c => if number < 65536 then number * 10 + (hexValue? c).getD 0 else number) 0
    if negative then -number else number

-- The parts of a float behind its sign. A fraction or an exponent has to be there.
def decimal? (text : List Char) : Option Decimal := do
  let isMark := fun c => c = 'e' || c = 'E'
  let mantissa := text.takeWhile (!isMark ·)
  let exponent := text.dropWhile (!isMark ·)
  let fraction := mantissa.dropWhile (· != '.')
  let wholeDigits ← decimalDigits? (mantissa.takeWhile (· != '.'))
  let fractionDigits ← if fraction.isEmpty then some [] else
    plainDigits? Char.isDigit (fraction.drop 1)
  let power ← if exponent.isEmpty then some 0 else exponent? (exponent.drop 1)
  if fraction.isEmpty && exponent.isEmpty then none
  else some ⟨wholeDigits ++ fractionDigits, power - fractionDigits.length⟩

-- A float. Infinities are welcome where they are written as such.
def float? (text : List Char) : Option Value :=
  let body := (splitSign text).2
  if body = ['i', 'n', 'f'] || body = ['n', 'a', 'n'] then some (.float false)
  else (decimal? body).map fun decimal => .float decimal.overflows

def isScalarChar (c : Char) : Bool :=
  c.isAlphanum || c = '_' || c = '+' || c = '-' || c = '.' || c = ':'

-- The word that a value other than a string or a container is written with. A space stands
-- between a date and a time of day.
def readWord (text : List Char) : List Char × List Char :=
  let word := text.takeWhile isScalarChar
  let rest := text.dropWhile isScalarChar
  match Date.read word, rest with
  | some (_, []), ' ' :: more =>
    if (more.head?.map Char.isDigit).getD false then
      (word ++ ' ' :: more.takeWhile isScalarChar, more.dropWhile isScalarChar)
    else
      (word, rest)
  | _, _ => (word, rest)

def scalar? (word : List Char) : Option Value :=
  if word = ['t', 'r', 'u', 'e'] then some (.boolean true)
  else if word = ['f', 'a', 'l', 's', 'e'] then some (.boolean false)
  else
    ((integer? word).map Value.integer).or ((float? word).or
      ((Datetime.ofChars? word).map Value.datetime))

end TemplateMarkup.Toml
