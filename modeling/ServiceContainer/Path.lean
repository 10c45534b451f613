/-!
File paths: the steps from one directory to the next, and the extension of the name at the end.
-/

namespace ServiceContainer

abbrev Path := String

namespace Path

/-- The names between slashes; repeated slashes count as one. -/
def steps (path : Path) : List String :=
  ((List.splitOn '/' path.toList).filter (· ≠ [])).map String.ofList

def isAbsolute (path : Path) : Bool := path.toList.head? = some '/'

def endsInSlash (path : Path) : Bool := path.toList.getLast? = some '/'

def name? (path : Path) : Option String :=
  (path.steps.filter (· ≠ ".")).getLast?.filter (· ≠ "..")

/-- The part of the name behind its last dot. A dot in front of the whole name starts no extension. -/
def extension? (path : Path) : Option String := do
  let reversed := (← path.name?).toList.reverse
  match reversed.dropWhile (· ≠ '.') with
  | [] | ['.'] => none
  | _ => some (String.ofList (reversed.takeWhile (· ≠ '.')).reverse)

end Path

end ServiceContainer
