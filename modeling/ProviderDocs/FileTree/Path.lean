import ProviderDocs.Text.Search

/-!
# Paths

A path is a text of names with slashes between them, kept as it was written; an absolute one
begins with a slash.
-/

namespace ProviderDocs.Path

def isAbsolute (path : String) : Bool := startsWith path "/"

/-- Goes on from `base` along `path`; an absolute path starts over. -/
def join (base path : String) : String :=
  if isAbsolute path || base.isEmpty then path
  else if endsWith base "/" then base ++ path
  else base ++ "/" ++ path

/-- The names of a path, in order; the name `.` counts at the start only. -/
def components (path : String) : List String :=
  match (path.toList.splitOn '/').map String.ofList with
  | [] => []
  | first :: rest =>
    (if first.isEmpty then [] else [first]) ++ rest.filter fun name ↦ name ≠ "" && name ≠ "."

/-- The last name of a path, unless that leads upwards or nowhere. -/
def fileName? (path : String) : Option String :=
  match (components path).getLast? with
  | some name => if name = ".." || name = "." then none else some name
  | none => none

/-- What follows the last dot of the file name; a dot in front does not count. -/
def extension? (path : String) : Option String := do
  let name := (← fileName? path).toList
  let ending := Text.afterLast '.' name
  if ending.length + 1 < name.length then some (String.ofList ending) else none

/-- The path without its last name. -/
def parent? (path : String) : Option String :=
  match components path with
  | [] => none
  | names =>
    some ((if isAbsolute path then "/" else "") ++ "/".intercalate names.dropLast)

end ProviderDocs.Path
