import VisualNovel.Text.Pieces

/-!
# Paths

A path names a file or a directory by the names on the way to it, from the root if it
is absolute and from the working directory otherwise.  Empty names and `.` are left
out when a path is read; `..` stays, for only a walk can tell where it leads.
-/

namespace VisualNovel

/-- The names on the way to a file or a directory. -/
structure Path where
  absolute : Bool := false
  parts : List String := []
  deriving DecidableEq, Repr

namespace Path

/-- The path that a text names. -/
def ofText (text : String) : Path :=
  { absolute := text.startsWith "/"
    parts := (Text.pieces '/' text).filter fun part => part ≠ "" ∧ part ≠ "." }

/-- The path followed by another one; an absolute path starts over. -/
def join (path other : Path) : Path :=
  if other.absolute then other else { path with parts := path.parts ++ other.parts }

/-- The path followed by what a text names. -/
def child (path : Path) (text : String) : Path :=
  path.join (ofText text)

/-- The text of a path. -/
def text (path : Path) : String :=
  let names := "/".intercalate path.parts
  if path.absolute then "/" ++ names
  else if path.parts.isEmpty then "." else names

/-- The names without `..`, each taking back the name before it. -/
def plainNames (names : List String) : List String :=
  names.foldl (fun before name => if name = ".." then before.dropLast else before ++ [name]) []

/-- The names from the root to where a path leads, if every name on the way is that of a
directory. -/
def fromRoot (workingDirectory : List String) (path : Path) : List String :=
  plainNames (if path.absolute then path.parts else workingDirectory ++ path.parts)

/-- The last name on the way. -/
def name (path : Path) : String := path.parts.getLastD ""

end Path

end VisualNovel
