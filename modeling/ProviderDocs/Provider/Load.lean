import ProviderDocs.Error
import ProviderDocs.Json.Parser
import ProviderDocs.Provider.Json
import ProviderDocs.Provider.Yaml

/-!
# Loading provider mappings

A file with the extension `json` holds JSON, and any other file YAML.
-/

namespace ProviderDocs.Provider

/-- The provider mapping of a JSON text. -/
def parseJson (text : String) : Except String Provider := do
  let json ← (Json.parse text).mapError (·.message)
  match ofJson? json with
  | some provider => .ok provider
  | none => .error "no provider mapping at line 1 column 1"

def formatOf (path : String) : MappingFormat :=
  if Path.extension? path = some "json" then .json else .yaml

def parse (format : MappingFormat) (text : String) : Except String Provider :=
  match format with
  | .json => parseJson text
  | .yaml => parseYaml text

def load (files : FileTree) (path : String) : Except Error Provider := do
  let text ← (files.readText path).mapError (.mappingUnreadable path)
  let format := formatOf path
  (parse format text).mapError (.mappingMalformed format path)

end ProviderDocs.Provider
