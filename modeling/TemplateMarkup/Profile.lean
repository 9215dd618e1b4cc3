import TemplateMarkup.Assembly.Step
import TemplateMarkup.Catalog
import TemplateMarkup.Markup.Document

namespace TemplateMarkup

-- Assembles the template that a supply of events describes. The first refused event ends it, or
-- else the failure of the supply.
def EventStream.assemble (stream : EventStream) (resource : String) (compress : Bool) :
    Except Fault Template :=
  match (Assembly.start resource compress).feed stream.events with
  | .error fault => .error fault
  | .ok assembly =>
    match stream.failure with
    | some failure => .error (failure.report resource)
    | none => .ok assembly.template

-- How templates are read: whether white space is compressed by default, and where external
-- definitions are found.
structure Profile where
  compress : Bool
  catalog : Catalog

namespace Profile

def standard : Profile :=
  ⟨true, Catalog.bundled⟩

-- Parses the text of a template.
def parseText (profile : Profile) (files : FileSystem) (resource text : String) :
    Except Fault Template :=
  (Markup.events ⟨resource, profile.catalog.fetch files⟩ text).assemble resource profile.compress

-- Parses a file, whose path becomes the name of the resource.
def parseFile (profile : Profile) (files : FileSystem) (path : String) :
    Except Fault Template :=
  match files.readText path with
  | .error failure => .error (.unreadable failure)
  | .ok text => profile.parseText files path text

end Profile

end TemplateMarkup
