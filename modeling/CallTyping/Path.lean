/-
This file defines the path of a file that lies beside another one. A path is a
text whose components are separated by slashes; empty components and single dots
say nothing, except that a leading slash makes the path absolute and a leading dot
keeps it relative. A directory is written as the beginning of the text of the file
inside it, so all files required from one directory get the same spelling of it.
-/

namespace CallTyping

namespace Path

/-- The mark of an absolute path or of one that starts at the current directory, and the rest. -/
def splitAnchor : List Char → List Char × List Char
  | '/' :: rest => (['/'], rest)
  | '.' :: '/' :: rest => (['.'], '/' :: rest)
  | ['.'] => (['.'], [])
  | path => ([], path)

/-- Leaves out, from a path read backwards, the components at its end that say nothing. -/
def trimIdle : List Char → List Char
  | '/' :: rest => trimIdle rest
  | '.' :: '/' :: rest => trimIdle rest
  | ['.'] => []
  | path => path

/-- Leaves out the last component of a path read backwards. -/
def dropComponent (path : List Char) : List Char := trimIdle (path.dropWhile (· ≠ '/'))

/-- The directory that holds a file; neither the root nor the empty path lies in one. -/
def parent? (path : List Char) : Option (List Char) :=
  let (anchor, rest) := splitAnchor path
  match trimIdle rest.reverse with
  | [] => if anchor = ['.'] then some [] else none
  | backwards => some (anchor ++ (dropComponent backwards).reverse)

/-- The path of a file in a directory; an absolute name stands for itself. -/
def join (directory name : List Char) : List Char :=
  if name.head? = some '/' then name
  else if directory = [] ∨ directory.getLast? = some '/' then directory ++ name
  else directory ++ '/' :: name

end Path

/-- The file that a name stands for when `requirer` asks for it. -/
def requiredFile (requirer name extension : String) : String :=
  let directory := (Path.parent? requirer.toList).getD []
  String.ofList (Path.join directory (name ++ "." ++ extension).toList)

end CallTyping
