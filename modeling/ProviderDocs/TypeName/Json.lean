import ProviderDocs.Schema.Json
import ProviderDocs.TypeName.Registry

/-!
# The registry as JSON

The members of the type stand beside those of its declaration.
-/

namespace ProviderDocs

def NameSet.toJson (names : NameSet) : Json := .arr (names.keys.map .str)

def NamedType.toJson (named : NamedType) : Json :=
  .obj (named.type.members ++
    [("declarer", .str named.declarer), ("required", named.required.toJson)] ++
    Json.optionalMember "requiredInputs" NameSet.toJson named.requiredInputs ++
    Json.optionalMember "requiredOutputs" NameSet.toJson named.requiredOutputs ++
    [("typePaths", named.paths.toJson)])

def TypeRegistry.toJson (registry : TypeRegistry) : Json :=
  .ofDict NamedType.toJson registry.types

end ProviderDocs
