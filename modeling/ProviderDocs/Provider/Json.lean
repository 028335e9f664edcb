import ProviderDocs.Json.Decode
import ProviderDocs.Provider.Basic

/-!
# Provider mappings as JSON

Members stand in the order of the fields. Overrides that are absent are left out, and so are
empty dictionaries of fields; the dictionaries of entities are always written.
-/

namespace ProviderDocs

/-! ## Writing -/

namespace FieldOverride

mutual

def toJson : FieldOverride → Json
  | mk name omitted nestedTypeName element fields =>
    .obj (Json.optionalMember "name" .str name ++
      [("omit", .bool omitted)] ++
      Json.optionalMember "nested_type_name" .str nestedTypeName ++
      elementMember element ++
      match fields with
      | [] => []
      | fields => [("fields", .obj (fieldMembers fields))])

def elementMember : Option FieldOverride → List (String × Json)
  | none => []
  | some element => [("elem", element.toJson)]

def fieldMembers : List (String × FieldOverride) → List (String × Json)
  | [] => []
  | (name, override) :: rest => (name, override.toJson) :: fieldMembers rest

end

end FieldOverride

def DocOverride.toJson (docs : DocOverride) : Json :=
  .obj (Json.optionalMember "markdown" .str docs.markdown ++
    Json.optionalMember "source" .str docs.source ++
    Json.optionalMember "import_details" .str docs.importDetails ++
    Json.optionalMember "include_attributes_from" .str docs.attributesFrom ++
    Json.optionalMember "include_attributes_from_arguments" .str docs.attributesFromArguments ++
    Json.optionalMember "include_arguments_from" .str docs.argumentsFrom)

def EntityMapping.toJson (mapping : EntityMapping) : Json :=
  .obj ([("tok", .str mapping.token)] ++
    Json.optionalMember "docs" DocOverride.toJson mapping.docs ++
    match mapping.fields with
    | [] => []
    | fields => [("fields", .obj (FieldOverride.fieldMembers fields))])

def Provider.toJson (provider : Provider) : Json :=
  .obj ([("name", .str provider.name)] ++
    Json.optionalMember "resource_prefix" .str provider.resourcePrefix ++
    Json.optionalMember "github_org" .str provider.organization ++
    [("git_host", .str provider.gitHost),
      ("resources", .ofDict EntityMapping.toJson provider.resources),
      ("data_sources", .ofDict EntityMapping.toJson provider.dataSources)])

/-! ## Reading -/

namespace FieldOverride

def fieldNames : List String := ["name", "omit", "nested_type_name", "elem", "fields"]

def ofJson? (json : Json) : Option FieldOverride := do
  let field := json.field? fieldNames
  unless json.isRecord fieldNames do none
  let name ← Json.optional Json.str? (field "name")
  let omitted ← Json.withDefault false Json.bool? (field "omit")
  let nestedTypeName ← Json.optional Json.str? (field "nested_type_name")
  let element ← match _helement : json.field? fieldNames "elem" with
    | none | some .null => some none
    | some value => (ofJson? value).map some
  let fields ← match _hfields : json.field? fieldNames "fields" with
    | none => some []
    | some (.obj members) =>
      (members.attach.mapM fun member ↦
        (ofJson? member.val.2).map (member.val.1, ·)).map Entries.ofList
    | some _ => none
  some (mk name omitted nestedTypeName element fields)
termination_by sizeOf json
decreasing_by
  · have hlt := Json.sizeOf_field?_lt _hfields
    have hmem := List.sizeOf_lt_of_mem member.property
    have hpair : sizeOf member.val.2 < sizeOf member.val := by
      cases member.val
      simp only [Prod.mk.sizeOf_spec]
      omega
    simp only [Json.obj.sizeOf_spec] at hlt
    omega
  · exact Json.sizeOf_field?_lt _helement

/-- The overrides of a dictionary of fields. -/
def dictOfJson? (json : Json) : Option FieldOverrides := (Json.dict? ofJson? json).map (·.entries)

end FieldOverride

namespace DocOverride

def fieldNames : List String :=
  ["markdown", "source", "import_details", "include_attributes_from",
    "include_attributes_from_arguments", "include_arguments_from"]

def ofJson? (json : Json) : Option DocOverride := do
  let text? := fun name ↦ Json.optional Json.str? (json.field? fieldNames name)
  guard (json.isRecord fieldNames)
  some {
    markdown := ← text? "markdown"
    source := ← text? "source"
    importDetails := ← text? "import_details"
    attributesFrom := ← text? "include_attributes_from"
    attributesFromArguments := ← text? "include_attributes_from_arguments"
    argumentsFrom := ← text? "include_arguments_from" }

end DocOverride

namespace EntityMapping

def fieldNames : List String := ["tok", "docs", "fields"]

def ofJson? (json : Json) : Option EntityMapping := do
  let field := json.field? fieldNames
  guard (json.isRecord fieldNames)
  some {
    token := ← Json.required Json.str? (field "tok")
    docs := ← Json.optional DocOverride.ofJson? (field "docs")
    fields := ← Json.withDefault [] FieldOverride.dictOfJson? (field "fields") }

end EntityMapping

namespace Provider

def fieldNames : List String :=
  ["name", "resource_prefix", "github_org", "git_host", "resources", "data_sources"]

def ofJson? (json : Json) : Option Provider := do
  let field := json.field? fieldNames
  guard (json.isRecord fieldNames)
  some {
    name := ← Json.required Json.str? (field "name")
    resourcePrefix := ← Json.optional Json.str? (field "resource_prefix")
    organization := ← Json.optional Json.str? (field "github_org")
    gitHost := ← Json.withDefault defaultHost Json.str? (field "git_host")
    resources := ← Json.withDefault ∅ (Json.dict? EntityMapping.ofJson?) (field "resources")
    dataSources := ←
      Json.withDefault ∅ (Json.dict? EntityMapping.ofJson?) (field "data_sources") }

end Provider

end ProviderDocs
