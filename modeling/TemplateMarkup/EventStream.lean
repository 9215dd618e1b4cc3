import TemplateMarkup.Event
import TemplateMarkup.Fault

namespace TemplateMarkup

-- A fault that ends a supply of events, and the line where it came up.
structure StreamFailure where
  fault : Fault
  line : Option Nat
  deriving DecidableEq, Repr

-- Events up to the end of their source or to a fault in it.
structure EventStream where
  events : List PlacedEvent
  failure : Option StreamFailure
  deriving DecidableEq, Repr

namespace EventStream

def prepend (events : List PlacedEvent) (stream : EventStream) : EventStream :=
  { stream with events := events ++ stream.events }

def failing (fault : Fault) (line : Option Nat) : EventStream :=
  ⟨[], some ⟨fault, line⟩⟩

end EventStream

namespace StreamFailure

-- The fault to report. A file that could not be read names no place, so the line reached in the
-- resource is put in.
def report (failure : StreamFailure) (resource : String) : Fault :=
  match failure.fault with
  | .unreadable cause => .malformed (.unreadable cause) ⟨resource, failure.line⟩
  | fault => fault

end StreamFailure

end TemplateMarkup
