import ProviderDocs.CommandLine.Invocation
import ProviderDocs.CommandLine.Session
import ProviderDocs.Doc.Json
import ProviderDocs.DocSource
import ProviderDocs.Json.Printer

/-!
# The `docs` command

Parses the document of an entity and writes it as JSON.
-/

namespace ProviderDocs.CommandLine.DocsCommand

/-- The document of a checkout; the environment may also make a missing one an error. -/
def fromRepository (command : DocsCommand) (environment : Dict String) (isVerbose : Bool)
    (provider : Provider) (repository : String) : Action Markdown.ParsedDoc := do
  if isVerbose then .say s!"  Repository: {repository}"
  let requireDocs := (environment.get? DocSource.requireDocsVariable).any meansYes
  let source : DocSource :=
    ⟨repository, provider, command.language, command.requireDocs || requireDocs⟩
  .demand (.docsNotLoaded command.name) (source.entityDocs (← .files) command.kind command.name)

def parse (command : DocsCommand) (environment : Dict String) (isVerbose : Bool)
    (provider : Provider) : Action Markdown.ParsedDoc := do
  match command.file, command.repository with
  | some file, _ =>
    let mapping := provider.entity? command.kind command.name
    return Markdown.parse provider command.language mapping (← .readText file)
  | none, some repository =>
    command.fromRepository environment isVerbose provider repository
  | none, none => throw .noDocument

def run (command : DocsCommand) (environment : Dict String) (isVerbose : Bool) : Action Unit := do
  let provider ← .readProvider command.mapping command.provider
  .say s!"→ Parsing docs for {command.kind.label} {command.name}"
  let parsed ← command.parse environment isVerbose provider
  .say (s!"✓ Parsed {parsed.doc.arguments.size} arguments and " ++
    s!"{parsed.doc.attributes.size} attributes")
  if parsed.elided then .say "⚠ Some text was removed during cleanup"
  let json := parsed.rendered.toJson.pretty
  match command.output with
  | some path =>
    .writeText path json
    .say s!"✓ Wrote {path}"
  | none => .say ("\n" ++ json)
  .saySummary parsed.stats none

end ProviderDocs.CommandLine.DocsCommand
