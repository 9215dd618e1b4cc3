import TemplateMarkup.Json

namespace TemplateMarkup

-- A line of a named resource. The line is absent when the events have none.
structure Location where
  resource : String
  line : Option Nat
  deriving DecidableEq, Repr

namespace Location

def describe (location : Location) : String :=
  match location.line with
  | some line => s!"{location.resource}, line {line}"
  | none => location.resource

def toJson (location : Location) : Json :=
  .object [("resource", .string location.resource), ("line", Json.ofNat? location.line)]

end Location

end TemplateMarkup
