import Std.Data.ExtTreeMap
import TemplateMarkup.Catalog.Bundled
import TemplateMarkup.Fault
import TemplateMarkup.Files.FileSystem

namespace TemplateMarkup

-- Where the text of an external document type or entity set is kept.
inductive DtdSource where
  | bundled (text : String)
  | file (path : String)
  deriving DecidableEq, Repr

-- Public identifiers and what is known locally about them.
structure Catalog where
  sources : Std.ExtTreeMap String DtdSource

namespace Catalog

-- A standard document type or entity set.
structure Standard where
  publicId : String
  fileName : String
  text : String

-- The XHTML 1.0 document types and entity sets. The HTML 4.01 document types share their files.
def standards : List Standard := [
  ⟨"-//W3C//DTD XHTML 1.0 Strict//EN", "xhtml1-strict.dtd", Bundled.strictDtd⟩,
  ⟨"-//W3C//DTD XHTML 1.0 Transitional//EN", "xhtml1-transitional.dtd", Bundled.transitionalDtd⟩,
  ⟨"-//W3C//DTD XHTML 1.0 Frameset//EN", "xhtml1-frameset.dtd", Bundled.framesetDtd⟩,
  ⟨"-//W3C//DTD HTML 4.01//EN", "xhtml1-strict.dtd", Bundled.strictDtd⟩,
  ⟨"-//W3C//DTD HTML 4.01 Transitional//EN", "xhtml1-transitional.dtd", Bundled.transitionalDtd⟩,
  ⟨"-//W3C//DTD HTML 4.01 Frameset//EN", "xhtml1-frameset.dtd", Bundled.framesetDtd⟩,
  ⟨"-//W3C//ENTITIES Latin 1 for XHTML//EN", "xhtml-lat1.ent", Bundled.latin1Entities⟩,
  ⟨"-//W3C//ENTITIES Symbols for XHTML//EN", "xhtml-symbol.ent", Bundled.symbolEntities⟩,
  ⟨"-//W3C//ENTITIES Special for XHTML//EN", "xhtml-special.ent", Bundled.specialEntities⟩]

def empty : Catalog :=
  ⟨∅⟩

-- Registers a source, in place of the one that the identifier may have.
def insert (catalog : Catalog) (publicId : String) (source : DtdSource) : Catalog :=
  ⟨catalog.sources.insert publicId source⟩

def addFile (catalog : Catalog) (publicId path : String) : Catalog :=
  catalog.insert publicId (.file path)

-- The standard identifiers with the texts that come with the library.
def bundled : Catalog :=
  standards.foldl (fun catalog s => catalog.insert s.publicId (.bundled s.text)) empty

-- The standard identifiers with files in a directory.
def inDirectory (directory : String) : Catalog :=
  standards.foldl (fun catalog s => catalog.addFile s.publicId (Path.join directory s.fileName))
    empty

def source? (catalog : Catalog) (publicId : String) : Option DtdSource :=
  catalog.sources[publicId]?

def contains (catalog : Catalog) (publicId : String) : Bool :=
  (catalog.source? publicId).isSome

-- The file of an identifier. A bundled text has none.
def path? (catalog : Catalog) (publicId : String) : Option String :=
  match catalog.source? publicId with
  | some (.file path) => some path
  | _ => none

def size (catalog : Catalog) : Nat :=
  catalog.sources.size

def isEmpty (catalog : Catalog) : Bool :=
  catalog.sources.isEmpty

-- The text of an identifier, or nothing where the identifier is unknown.
def fetch (catalog : Catalog) (files : FileSystem) (publicId : String) :
    Except Fault (Option String) :=
  match catalog.source? publicId with
  | none => .ok none
  | some (.bundled text) => .ok (some text)
  | some (.file path) =>
    match files.readText path with
    | .ok text => .ok (some text)
    | .error failure => .error (.unreachableResource publicId path failure none)

end Catalog

end TemplateMarkup
