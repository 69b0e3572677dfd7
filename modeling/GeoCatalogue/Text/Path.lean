/-!
# Paths of files

A path is a text of names divided by slashes; it is absolute if it starts
with a slash. Repeated slashes and names that are a single full stop do
not matter: `Path.names` leaves them out. Names of two full stops are
kept, since what they stand for depends on the files that there are.

* `Path.names` – the names in a path;
* `Path.canNameFile` – whether a path, as it is written, is not that of a
  directory;
* `Path.absolute` – the absolute form of a path.
-/
namespace GeoCatalogue.Path

/-- **The names in a path**, in order. -/
def names (path : String) : List String :=
  (path.splitOn "/").filter fun name => name ≠ "" && name ≠ "."

/-- Whether a path can be that of a file: a path that ends in a slash or
in a single full stop is that of a directory. -/
def canNameFile (path : String) : Bool :=
  match (path.splitOn "/").getLast? with
  | some name => name ≠ "" && name ≠ "."
  | none => false

/-- Whether a path starts at the root. -/
def isAbsolute (path : String) : Bool :=
  path.startsWith "/"

/-- What an absolute path starts with: one slash, or the two slashes that
have a meaning of their own. -/
def rootText (path : String) : String :=
  if path.startsWith "//" && !path.startsWith "///" then "//" else "/"

/-- **The absolute form of a path** that is taken from a directory. -/
def absolute (directory path : String) : String :=
  if isAbsolute path then rootText path ++ "/".intercalate (names path)
  else "/".intercalate (directory :: names path)

end GeoCatalogue.Path
