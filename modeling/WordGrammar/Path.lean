/-
Paths of files, as texts with slashes.

Relative paths are joined to a directory; the directory of a path is what
remains without its last component. Empty components and single dots say
nothing and are dropped from the end of what remains.
-/
namespace WordGrammar.Path

/-- Whether a path starts at the root. -/
def isAbsolute (path : String) : Bool :=
  path.toList.head? == some '/'

/-- A path below a directory; an absolute path stands for itself. -/
def join (directory path : String) : String :=
  if isAbsolute path then path
  else if directory.toList.getLast? == some '/' || directory.isEmpty then
    directory ++ path
  else directory ++ "/" ++ path

/-- The texts between the slashes of a path. -/
def components (path : String) : List String := path.splitOn "/"

/-- Whether a component says nothing. -/
def isIdle (component : String) : Bool :=
  component == "" || component == "."

/-- Components without the idle ones at their end. -/
def trimIdle (components : List String) : List String :=
  (components.reverse.dropWhile isIdle).reverse

/-- The directory that a path lies in; none for the root and for a path
without components. -/
def parent? (path : String) : Option String :=
  match trimIdle (components path) with
  | [] => none
  | named =>
      let outer := trimIdle named.dropLast
      if outer = [] then some (if isAbsolute path then "/" else "")
      else some ("/".intercalate outer)

end WordGrammar.Path
