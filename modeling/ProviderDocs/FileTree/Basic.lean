import ProviderDocs.Dict
import ProviderDocs.FileTree.Path

/-!
# File trees

The files and directories that a run reads and writes, as a value. Every operation fails for
the causes for which the operating system would refuse it, and fails with its message.
-/

namespace ProviderDocs

/-! ## Failures -/

inductive FileError where
  | notFound
  | permissionDenied
  | alreadyExists
  | notADirectory
  | isADirectory
  | notExecutable
  | nameTooLong
  | zeroInName
  | invalidText
  deriving DecidableEq, Repr

def FileError.message : FileError → String
  | notFound => "No such file or directory (os error 2)"
  | notExecutable => "Exec format error (os error 8)"
  | permissionDenied => "Permission denied (os error 13)"
  | alreadyExists => "File exists (os error 17)"
  | notADirectory => "Not a directory (os error 20)"
  | isADirectory => "Is a directory (os error 21)"
  | nameTooLong => "File name too long (os error 36)"
  | zeroInName => "file name contained an unexpected NUL byte"
  | invalidText => "stream did not contain valid UTF-8"

/-! ## Trees -/

inductive FileNode where
  | directory
  | file (content : ByteArray) (isExecutable : Bool)

/-- The nodes by their location; the root has the empty location. -/
structure FileTree where
  nodes : Dict FileNode
  /-- The directory that relative paths start from. -/
  workingDirectory : List String
  /-- The path of the directory for temporary directories. -/
  temporary : String

namespace FileTree

/-- The key of a location: each name with a slash before it. -/
def key (location : List String) : String := String.join (location.map ("/" ++ ·))

def empty : FileTree := ⟨Dict.empty.insert "" .directory, [], "/tmp"⟩

def node? (tree : FileTree) (location : List String) : Option FileNode :=
  tree.nodes.get? (key location)

def set (tree : FileTree) (location : List String) (node : FileNode) : FileTree :=
  { tree with nodes := tree.nodes.insert (key location) node }

/-! ## Following paths -/

/-- Takes one step from a directory. -/
def enter (tree : FileTree) (location : List String) (name : String) :
    Except FileError (List String) :=
  match tree.node? location with
  | some .directory =>
    if name = "" || name = "." then .ok location
    else if name = ".." then .ok location.dropLast
    else if name.utf8ByteSize > 255 then .error .nameTooLong
    else if (tree.node? (location ++ [name])).isSome then .ok (location ++ [name])
    else .error .notFound
  | some (.file ..) => .error .notADirectory
  | none => .error .notFound

/-- The names of a path as written, and where they start. -/
def start (tree : FileTree) (path : String) : Except FileError (List String × List String) :=
  if path.toList.contains '\x00' then .error .zeroInName
  else if path.isEmpty then .error .notFound
  else if path.utf8ByteSize ≥ 4096 then .error .nameTooLong
  else
    let names := (path.toList.splitOn '/').map String.ofList
    .ok (if Path.isAbsolute path then [] else tree.workingDirectory, names)

/-- The location of something that exists. -/
def resolve (tree : FileTree) (path : String) : Except FileError (List String) := do
  let (location, names) ← tree.start path
  names.foldlM tree.enter location

/-- The location that a path would have once its last name exists. -/
def resolveNew (tree : FileTree) (path : String) : Except FileError (List String) := do
  let (location, names) ← tree.start path
  let parent ← names.dropLast.foldlM tree.enter location
  match tree.enter parent (names.getLast?.getD "") with
  | .error .notFound => .ok (parent ++ [names.getLast?.getD ""])
  | outcome => outcome

def isDirectory (tree : FileTree) (path : String) : Bool :=
  match (tree.resolve path).toOption.bind tree.node? with
  | some .directory => true
  | _ => false

def isFile (tree : FileTree) (path : String) : Bool :=
  match (tree.resolve path).toOption.bind tree.node? with
  | some (.file ..) => true
  | _ => false

/-! ## Reading and writing -/

def read (tree : FileTree) (path : String) : Except FileError ByteArray := do
  match tree.node? (← tree.resolve path) with
  | some (.file content _) => .ok content
  | some .directory => .error .isADirectory
  | none => .error .notFound

def readText (tree : FileTree) (path : String) : Except FileError String := do
  match String.fromUTF8? (← tree.read path) with
  | some text => .ok text
  | none => .error .invalidText

/-- Replaces or creates a file; one that is executable stays so. -/
def write (tree : FileTree) (path : String) (content : ByteArray) : Except FileError FileTree := do
  if endsWith path "/" then
    match tree.resolve path with
    | .ok _ | .error .notFound => throw .isADirectory
    | .error error => throw error
  let location ← tree.resolveNew path
  match tree.node? location with
  | some .directory => .error .isADirectory
  | some (.file _ isExecutable) => .ok (tree.set location (.file content isExecutable))
  | none => .ok (tree.set location (.file content false))

def writeText (tree : FileTree) (path text : String) : Except FileError FileTree :=
  tree.write path text.toUTF8

/-- The path without the slashes at its end, which a new directory may have. -/
def withoutEndSlashes (path : String) : String :=
  match (path.toList.reverse.dropWhile (· = '/')).reverse with
  | [] => path
  | chars => String.ofList chars

def makeDirectory (tree : FileTree) (path : String) : Except FileError FileTree := do
  let location ← tree.resolveNew (withoutEndSlashes path)
  match tree.node? location with
  | some _ => .error .alreadyExists
  | none => .ok (tree.set location .directory)

/-- Makes a directory and those above it that are missing; at most `fuel` of them. -/
def makeDirectoriesWithin (fuel : Nat) (tree : FileTree) (path : String) :
    Except FileError FileTree :=
  let settle := fun (tree : FileTree) (outcome : Except FileError FileTree) ↦
    match outcome with
    | .ok tree => .ok tree
    | .error error => if tree.isDirectory path then .ok tree else .error error
  if path.isEmpty then .ok tree
  else
    match tree.makeDirectory path, fuel with
    | .error .notFound, fuel + 1 =>
      match Path.parent? path with
      | some parent =>
        match makeDirectoriesWithin fuel tree parent with
        | .ok tree => settle tree (tree.makeDirectory path)
        | .error error => .error error
      | none => .error .notFound
    | outcome, _ => settle tree outcome

/-- Makes a directory and those above it that are missing. -/
def makeDirectories (tree : FileTree) (path : String) : Except FileError FileTree :=
  makeDirectoriesWithin (Path.components path).length tree path

/-- Removes a directory with all that is below it. -/
def removeBelow (tree : FileTree) (location : List String) : FileTree :=
  { tree with
    nodes := Dict.ofList (tree.nodes.entries.filter fun entry ↦
      entry.1 ≠ key location && !startsWith entry.1 (key location ++ "/")) }

/-- Copies a directory with all that is below it. -/
def copyBelow (tree : FileTree) (source target : List String) : FileTree :=
  tree.nodes.entries.foldl (fun tree (path, node) ↦
    if path = key source then tree.set target node
    else
      match after? path (key source ++ "/") with
      | some rest => tree.set (target ++ (rest.toList.splitOn '/').map String.ofList) node
      | none => tree) tree

/-- A number whose directory below `base` does not exist, tried from `number` on. -/
def freeNumber (tree : FileTree) (base : String) : Nat → Nat → Nat
  | 0, number => number
  | tries + 1, number =>
    match tree.resolve (base ++ toString number) with
    | .ok _ => freeNumber tree base tries (number + 1)
    | .error _ => number

/-- Makes a new directory in the directory for temporary ones. -/
def makeTemporary (tree : FileTree) (namePrefix : String) :
    Except FileError (String × FileTree) := do
  let base := Path.join tree.temporary namePrefix
  let path := base ++ toString (tree.freeNumber base tree.nodes.size 0)
  .ok (path, ← tree.makeDirectory path)

/-! ## Listing -/

/-- The names in a directory. -/
def names (tree : FileTree) (location : List String) : List String :=
  tree.nodes.keys.filterMap fun path ↦ do
    let name ← after? path (key location ++ "/")
    if contains name "/" then none else some name

/-- The files below a directory, by their paths from there. -/
def filesBelow (tree : FileTree) (location : List String) : List (String × ByteArray × Bool) :=
  tree.nodes.entries.filterMap fun entry ↦
    match entry.2, after? entry.1 (key location ++ "/") with
    | .file content isExecutable, some path => some (path, content, isExecutable)
    | _, _ => none

/-- Puts a file at a location and makes the directories above it. -/
def place (tree : FileTree) (location : List String) (node : FileNode) : FileTree :=
  let above := ((List.range location.length).map location.take).foldl
    (fun tree directory ↦
      if (tree.node? directory).isSome then tree else tree.set directory .directory) tree
  above.set location node

end FileTree

end ProviderDocs
