import ProviderDocs.Doc.Basic
import ProviderDocs.Json.Decode

/-!
# Documentation records as JSON

Nested arguments and import texts are left out when empty.
-/

namespace ProviderDocs

namespace ArgumentDoc

def toJson (argument : ArgumentDoc) : Json :=
  .obj ([("description", .str argument.description)] ++
    (if argument.nested.isEmpty then []
      else [("nestedArguments", .ofDict .str argument.nested)]) ++
    [("isNested", .bool argument.isNested)])

def fieldNames : List String := ["description", "nestedArguments", "isNested"]

def ofJson? (json : Json) : Option ArgumentDoc := do
  let field := json.field? fieldNames
  guard (json.isRecord fieldNames)
  some {
    description := ← Json.required Json.str? (field "description")
    nested := ← Json.withDefault ∅ (Json.dict? Json.str?) (field "nestedArguments")
    isNested := ← Json.withDefault false Json.bool? (field "isNested") }

end ArgumentDoc

namespace EntityDoc

def toJson (doc : EntityDoc) : Json :=
  .obj ([("description", .str doc.description),
      ("arguments", .ofDict ArgumentDoc.toJson doc.arguments),
      ("attributes", .ofDict .str doc.attributes)] ++
    if doc.importText.isEmpty then [] else [("import", .str doc.importText)])

def fieldNames : List String := ["description", "arguments", "attributes", "import"]

def ofJson? (json : Json) : Option EntityDoc := do
  let field := json.field? fieldNames
  guard (json.isRecord fieldNames)
  some {
    description := ← Json.required Json.str? (field "description")
    arguments := ← Json.required (Json.dict? ArgumentDoc.ofJson?) (field "arguments")
    attributes := ← Json.required (Json.dict? Json.str?) (field "attributes")
    importText := ← Json.withDefault "" Json.str? (field "import") }

end EntityDoc

end ProviderDocs
