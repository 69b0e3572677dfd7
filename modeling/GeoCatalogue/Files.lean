import GeoCatalogue.Fault
import GeoCatalogue.Text.Blank
import GeoCatalogue.Text.Path
import GeoCatalogue.Xml.Document

/-!
# Documents from files and texts

A document is given as a text, or as the path of a file that holds it. A
text that starts with an angle bracket, blanks ignored, is the document
itself; any other text is a path.
-/
namespace GeoCatalogue

open Text Xml

/-- **The files there are**: a directory that paths are taken from, and
the contents of files by their paths from it. -/
structure Files where
  /-- The directory. -/
  directory : String
  /-- The names of the path of each file, and its content. -/
  contents : List (List String × String) := []

namespace Files

/-- The content of the file at a path, if there is one. -/
def content? (files : Files) (path : String) : Option String :=
  if Path.isAbsolute path then
    (files.contents.map fun (names, content) =>
      (Path.names files.directory ++ names, content)).lookup
        (Path.names path)
  else files.contents.lookup (Path.names path)

/-- The document of a text. -/
def parse (text : String) : Except Fault Element :=
  match Element.parse text with
  | .ok root => .ok root
  | .error defect => .error (.document defect)

/-- Whether a text is a document rather than a path. -/
def isDocumentText (source : String) : Bool :=
  (dropFront isBlank source.toList).head? == some '<'

/-- **The document that a text is, or that a file holds.** -/
def document (files : Files) (source : String) : Except Fault Element :=
  if isDocumentText source then parse source
  else if !Path.canNameFile source then .error (.unreadable source)
  else
    match files.content? source with
    | some content => parse content
    | none => .error (.unreadable source)

end Files

end GeoCatalogue
