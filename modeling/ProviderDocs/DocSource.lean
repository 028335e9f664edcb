import ProviderDocs.Error
import ProviderDocs.Markdown.Document

/-!
# The documents of a provider

A checkout of a provider holds one document per entity, in one of two layouts and under one
of several names. An entity's mapping may give its document in place, and may add arguments
and attributes from the documents of other entities.
-/

namespace ProviderDocs

/-- Whether the value of an environment variable means yes. -/
def meansYes (value : String) : Bool :=
  ["1", "true", "yes", "on"].contains (String.ofList ((Text.trim value.toList).map Char.toLower))

structure DocSource where
  /-- The directory of the checkout. -/
  repository : String
  provider : Provider
  language : OutputLanguage
  /-- A missing document is an error, not only a warning. -/
  requireDocs : Bool

namespace DocSource

/-- Set in the environment to make missing documents an error. -/
def requireDocsVariable : String := "TFGEN_MISSING_DOCS_ERROR"

def extensions : List String := [".html.markdown", ".markdown", ".html.md", ".md"]

/-- The directory of the documents of a kind in the current layout. -/
def currentDirectory (source : DocSource) (kind : EntityKind) : String :=
  Path.join (Path.join source.repository "docs") kind.directory

/-- The directory of the documents of a kind in the older layout. -/
def legacyDirectory (source : DocSource) (kind : EntityKind) : String :=
  Path.join (Path.join (Path.join source.repository "website") "docs") kind.legacyDirectory

/-- The directory of the documents of a kind; that of resources marks the current layout. -/
def directory (source : DocSource) (files : FileTree) (kind : EntityKind) : String :=
  if files.isDirectory (source.currentDirectory .resource) then source.currentDirectory kind
  else source.legacyDirectory kind

/-- The file names that may hold the document of an entity, in the order they are tried. -/
def fileNames (provider : Provider) (name : String) (mapping : Option EntityMapping) :
    List String :=
  let short := shortName provider.entityPrefix name
  extensions.map (short ++ ·) ++ extensions.map (name ++ ·) ++
    ((mapping.bind (·.docs)).bind (·.source)).toList

/-- The markdown given in place by a mapping. -/
def inlineMarkdown? (mapping : Option EntityMapping) : Option String :=
  (mapping.bind (·.docs)).bind (·.markdown)

/-- The markdown of an entity and the name of its file, empty when it is given in place. -/
def find (source : DocSource) (files : FileTree) (kind : EntityKind) (name : String)
    (mapping : Option EntityMapping) : Except Error (Option (String × String)) :=
  match inlineMarkdown? mapping with
  | some markdown => .ok (some (markdown, ""))
  | none =>
    let directory := source.directory files kind
    match (fileNames source.provider name mapping).find?
        fun file ↦ files.isFile (Path.join directory file) with
    | none => .ok none
    | some file =>
      let path := Path.join directory file
      match files.readText path with
      | .ok markdown => .ok (some (markdown, file))
      | .error cause => .error (.docsUnreadable path cause)

/-- What is known of an entity without a document. -/
def undocumented : Markdown.ParsedDoc :=
  let stats := Stats.zero
  ⟨.empty, { stats with missingDocs := 1, warnings := 1 }, false⟩

/-- The documentation in an entity's own document. -/
def ownDocs (source : DocSource) (files : FileTree) (kind : EntityKind) (name : String)
    (mapping : Option EntityMapping) : Except Error (Markdown.ParsedDoc × Bool) := do
  match ← source.find files kind name mapping with
  | some (markdown, _) =>
    .ok (Markdown.parse source.provider source.language mapping markdown, true)
  | none =>
    if source.requireDocs then .error (.docsMissing kind name) else .ok (undocumented, false)

/-- Lays the documentation of another entity, read without its mapping, over `parsed`. -/
def overlay (source : DocSource) (files : FileTree) (kind : EntityKind) (other : Option String)
    (lay : EntityDoc → EntityDoc → EntityDoc) (parsed : Markdown.ParsedDoc) :
    Except Error Markdown.ParsedDoc := do
  match other with
  | none => .ok parsed
  | some name =>
    let (otherDocs, _) ← source.ownDocs files kind name none
    .ok { parsed with
      doc := lay parsed.doc otherDocs.doc
      stats := parsed.stats.merge otherDocs.stats }

/-- The documentation of an entity with its overlays: attributes, arguments as attributes,
arguments. -/
def entityDocs (source : DocSource) (files : FileTree) (kind : EntityKind) (name : String) :
    Except Error Markdown.ParsedDoc := do
  let mapping := source.provider.entity? kind name
  let (parsed, isFound) ← source.ownDocs files kind name mapping
  match isFound, mapping.bind (·.docs) with
  | true, some docs =>
    let parsed ← source.overlay files kind docs.attributesFrom .includeAttributes parsed
    let parsed ←
      source.overlay files kind docs.attributesFromArguments .includeArgumentsAsAttributes parsed
    source.overlay files kind docs.argumentsFrom .includeArguments parsed
  | _, _ => .ok parsed

/-- All paths that `entityDocs` may look at. -/
def paths (source : DocSource) (kind : EntityKind) (name : String) : List String :=
  let mapping := source.provider.entity? kind name
  let others := match mapping.bind (·.docs) with
    | some docs =>
      [docs.attributesFrom, docs.attributesFromArguments, docs.argumentsFrom].filterMap id
    | none => []
  let names := fileNames source.provider name mapping ++
    others.flatMap (fileNames source.provider · none)
  [source.currentDirectory .resource] ++
    [source.currentDirectory kind, source.legacyDirectory kind].flatMap fun directory ↦
      names.map (Path.join directory)

end DocSource

end ProviderDocs
