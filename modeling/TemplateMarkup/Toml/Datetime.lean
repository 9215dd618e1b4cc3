import TemplateMarkup.Toml.Text

namespace TemplateMarkup.Toml

def digitsValue (radix : Nat) (digits : List Char) : Nat :=
  digits.foldl (fun number c => number * radix + (hexValue? c).getD 0) 0

structure Date where
  year : Nat
  month : Nat
  day : Nat
  deriving DecidableEq, Repr

-- A time of day. Seconds may be left out, and so may their fraction.
structure TimeOfDay where
  hour : Nat
  minute : Nat
  second : Option Nat
  nanosecond : Option Nat
  deriving DecidableEq, Repr

-- How local time relates to universal time.
inductive Offset where
  | universal
  -- By so many minutes ahead, or behind if negative.
  | ahead (minutes : Int)
  deriving DecidableEq, Repr

-- A date, a time of day, or both, with an offset if need be.
structure Datetime where
  date : Option Date
  time : Option TimeOfDay
  offset : Option Offset
  deriving DecidableEq, Repr

-- A number of exactly so many decimal digits.
def fixedNumber? (width : Nat) (text : List Char) : Option (Nat × List Char) :=
  let digits := text.take width
  if digits.length = width && digits.all Char.isDigit then
    some (digitsValue 10 digits, text.drop width)
  else
    none

def expect? (c : Char) : List Char → Option (List Char)
  | d :: rest => if c = d then some rest else none
  | [] => none

namespace Date

def isLeapYear (year : Nat) : Bool :=
  year % 4 = 0 && (year % 100 != 0 || year % 400 = 0)

def daysInMonth (year month : Nat) : Nat :=
  if month = 2 then (if isLeapYear year then 29 else 28)
  else if month = 4 || month = 6 || month = 9 || month = 11 then 30
  else 31

-- A day of the calendar, and what stands behind it.
def read (text : List Char) : Option (Date × List Char) := do
  let (year, rest) ← fixedNumber? 4 text
  let rest ← expect? '-' rest
  let (month, rest) ← fixedNumber? 2 rest
  let rest ← expect? '-' rest
  let (day, rest) ← fixedNumber? 2 rest
  if 1 ≤ month && month ≤ 12 && 1 ≤ day && day ≤ daysInMonth year month then
    some (⟨year, month, day⟩, rest)
  else
    none

end Date

namespace TimeOfDay

-- Nanoseconds from the digits of a fraction. Those behind the ninth are dropped.
def nanoseconds (digits : List Char) : Nat :=
  digitsValue 10 (digits.take 9) * Nat.pow 10 (9 - digits.length)

-- A fraction of a second, if there is one.
def readFraction (text : List Char) : Option (Option Nat × List Char) :=
  match text with
  | '.' :: rest =>
    let digits := rest.takeWhile Char.isDigit
    if digits.isEmpty then none
    else some (some (nanoseconds digits), rest.dropWhile Char.isDigit)
  | _ => some (none, text)

-- Seconds and their fraction, if there are any. A leap second is allowed in every minute.
def readSecond (text : List Char) : Option ((Option Nat × Option Nat) × List Char) :=
  match text with
  | ':' :: rest => do
    let (second, rest) ← fixedNumber? 2 rest
    let (fraction, rest) ← readFraction rest
    if second ≤ 60 then some ((some second, fraction), rest) else none
  | _ => some ((none, none), text)

-- A time of day, and what stands behind it.
def read (text : List Char) : Option (TimeOfDay × List Char) := do
  let (hour, rest) ← fixedNumber? 2 text
  let rest ← expect? ':' rest
  let (minute, rest) ← fixedNumber? 2 rest
  let ((second, fraction), rest) ← readSecond rest
  if hour ≤ 23 && minute ≤ 59 then some (⟨hour, minute, second, fraction⟩, rest) else none

end TimeOfDay

namespace Offset

-- An offset that takes up the whole text. No text is no offset.
def read (text : List Char) : Option (Option Offset) :=
  match text with
  | [] => some none
  | ['Z'] => some (some .universal)
  | ['z'] => some (some .universal)
  | sign :: rest => do
    let (hours, rest) ← fixedNumber? 2 rest
    let rest ← expect? ':' rest
    let (minutes, rest) ← fixedNumber? 2 rest
    if hours ≤ 23 && minutes ≤ 59 && rest.isEmpty then
      let total : Int := hours * 60 + minutes
      if sign = '+' then some (some (.ahead total))
      else if sign = '-' then some (some (.ahead (-total)))
      else none
    else none

end Offset

-- A number with zeros in front up to a width.
def padded (width number : Nat) : List Char :=
  let digits := Nat.toDigits 10 number
  List.replicate (width - digits.length) '0' ++ digits

namespace Date

def text (date : Date) : List Char :=
  padded 4 date.year ++ ['-'] ++ padded 2 date.month ++ ['-'] ++ padded 2 date.day

end Date

namespace TimeOfDay

-- A fraction is written without zeros at its end, but with one digit at least.
def fractionText (nanosecond : Nat) : List Char :=
  match ((padded 9 nanosecond).reverse.dropWhile (· == '0')).reverse with
  | [] => ['.', '0']
  | digits => '.' :: digits

def text (time : TimeOfDay) : List Char :=
  let seconds := match time.second with
    | some second => ':' :: padded 2 second
    | none => []
  padded 2 time.hour ++ [':'] ++ padded 2 time.minute ++ seconds ++
    (time.nanosecond.map fractionText).getD []

end TimeOfDay

namespace Offset

-- Universal time has a letter of its own. An offset of nothing counts as ahead.
def text : Offset → List Char
  | .universal => ['Z']
  | .ahead minutes =>
    (if minutes < 0 then '-' else '+') ::
      padded 2 (minutes.natAbs / 60) ++ [':'] ++ padded 2 (minutes.natAbs % 60)

end Offset

namespace Datetime

-- A date stands before a time of day, with a mark between them. An offset needs both.
def ofChars? (text : List Char) : Option Datetime :=
  match Date.read text with
  | some (date, []) => some ⟨some date, none, none⟩
  | some (date, mark :: rest) =>
    if mark = 'T' || mark = 't' || mark = ' ' then do
      let (time, rest) ← TimeOfDay.read rest
      let offset ← Offset.read rest
      some ⟨some date, some time, offset⟩
    else none
  | none =>
    match TimeOfDay.read text with
    | some (time, []) => some ⟨none, some time, none⟩
    | _ => none

-- The one spelling that stands for all others of the same value.
def text (value : Datetime) : String :=
  let date := (value.date.map Date.text).getD []
  let mark := if value.date.isSome && value.time.isSome then ['T'] else []
  let time := (value.time.map TimeOfDay.text).getD []
  let offset := (value.offset.map Offset.text).getD []
  String.ofList (date ++ mark ++ time ++ offset)

end Datetime

end TemplateMarkup.Toml
