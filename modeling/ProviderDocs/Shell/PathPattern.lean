import ProviderDocs.Shell.Expansion
import ProviderDocs.Shell.Machine

/-!
# Patterns of paths

A field with unquoted signs of a pattern stands for the paths that fit it. The names between
slashes fit one by one, and a name with a dot in front has to be asked for.
-/

namespace ProviderDocs.Shell.Pattern

/-- Some sign of the pattern stands for other texts. -/
def isActive (pattern : Pattern) : Bool :=
  pattern.any fun c ↦ !c.isQuoted && "*?[".toList.contains c.char

/-- The parts of a pattern between slashes. -/
def names (pattern : Pattern) : List Pattern := pattern.splitOnP (·.char = '/')

def acceptsName (pattern : Pattern) (name : Bytes) : Bool :=
  pattern.accepts name && (name.head? != some '.' || pattern.text.head? = some '.')

/-- The names in a directory, the current one for the empty path. -/
def namesIn (files : FileTree) (path : Bytes) : List Bytes :=
  match files.resolve (if path.isEmpty then "." else Machine.pathText path) with
  | .ok location => (files.names location).map Bytes.ofText
  | .error _ => []

/-- The paths that go on from a path with names that fit. -/
def pathsFrom (files : FileTree) (path : Bytes) : List Pattern → List Bytes
  | [] => if (files.resolve (Machine.pathText path)).isOk then [path] else []
  | pattern :: rest =>
    let ending := if rest.isEmpty then [] else ['/']
    if pattern.isActive then
      ((namesIn files path).filter pattern.acceptsName).flatMap fun name ↦
        pathsFrom files (path ++ name ++ ending) rest
    else pathsFrom files (path ++ pattern.text ++ ending) rest

/-- What a field stands for: the paths that fit it, or itself when there is none. -/
def expandPaths (files : FileTree) (field : Pattern) : List Bytes :=
  match if field.isActive then pathsFrom files [] field.names else [] with
  | [] => [field.text]
  | paths => paths

end ProviderDocs.Shell.Pattern
