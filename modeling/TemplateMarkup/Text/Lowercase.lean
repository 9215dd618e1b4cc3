import TemplateMarkup.Text.CaseData

namespace TemplateMarkup.Text

namespace LowerRun

def covers (run : LowerRun) (c : Char) : Bool :=
  run.first ≤ c.toNat && c.toNat ≤ run.last && (c.toNat - run.first) % run.step == 0

def apply (run : LowerRun) (c : Char) : Char :=
  Char.ofNat (run.lower + (c.toNat - run.first))

end LowerRun

-- The lower case form of one character, away from the capital sigma. Only the dotted
-- capital I becomes two characters.
def lowerChar (c : Char) : List Char :=
  if c.toNat < 128 then
    [c.toLower]
  else if c = 'İ' then
    ['i', '\u0307']
  else
    match lowerRuns.find? (·.covers c) with
    | some run => [run.apply c]
    | none => [c]

-- Whether the nearest character that is not passed over has case.
def meetsCased (cs : List Char) : Bool :=
  match cs.dropWhile caseIgnorablePoints.contains with
  | c :: _ => casedPoints.contains c
  | [] => false

-- Lowers a text behind the characters already read, which stand nearest first. A capital
-- sigma ends a word when a cased letter comes before it and none comes after it.
def lowerAfter (read : List Char) : List Char → List Char
  | [] => []
  | c :: rest =>
    let lowered :=
      if c = 'Σ' then
        [if meetsCased read && !meetsCased rest then 'ς' else 'σ']
      else
        lowerChar c
    lowered ++ lowerAfter (c :: read) rest

-- Full Unicode lower casing, the same in every locale.
def lowercase (text : String) : String :=
  String.ofList (lowerAfter [] text.toList)

end TemplateMarkup.Text
