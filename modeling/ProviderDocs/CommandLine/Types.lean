import ProviderDocs.CommandLine.Invocation
import ProviderDocs.CommandLine.Session
import ProviderDocs.Json.Parser
import ProviderDocs.Report.NestedTypes

/-!
# The `types` command

Names the nested types of schemas and reports on them.
-/

namespace ProviderDocs.CommandLine.TypesCommand

/-- The schemas that a JSON text lists. -/
def parseSchemas (text : String) : Except String (List EntitySchema) := do
  let json ← (Json.parse text).mapError (·.message)
  match Json.list? EntitySchema.ofJson? json with
  | some schemas => .ok schemas
  | none => .error "no entity schemas at line 1 column 1"

def write (directory provider : String) (registry : TypeRegistry) : Action Unit := do
  .demand .typesNotWritten
    (← .onFiles (Report.writeNestedTypes directory provider registry).run)
  .say "\n✓ Generation complete!"
  .say "\nGenerated files:"
  .say s!"  📄 {directory}/nested_types.json"
  .say s!"  📄 {directory}/nested_types.md"

def run (command : TypesCommand) : Action Unit := do
  let provider ← .readProvider command.mapping command.provider
  .say s!"→ Reading schemas from: {command.schemas}"
  let schemas ← .demand .schemasMalformed (parseSchemas (← .readText command.schemas))
  .say "→ Resolving nested types..."
  let registry ← .demand .typesUnresolved (provider.typeRegistry schemas)
  .say s!"✓ Resolved {registry.size} nested types from {schemas.length} entities"
  match command.output with
  | some directory => write directory provider.name registry
  | none => .say ("\n" ++ Report.nestedTypes provider.name registry)
  .saySummary .zero (some registry.size)

end ProviderDocs.CommandLine.TypesCommand
