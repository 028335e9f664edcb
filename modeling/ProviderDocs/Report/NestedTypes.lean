import ProviderDocs.FileTree.Action
import ProviderDocs.Json.Printer
import ProviderDocs.TypeName.Json
import ProviderDocs.TypeName.Walk

/-!
# The report on nested types

A markdown section for each named type lists its properties and the locations that go by its
name. The same registry is also written as JSON.
-/

namespace ProviderDocs

/-- The kinds of a type from the outside in, such as `list<map<string>>`. -/
def PropertyType.label : PropertyType → String
  | .mk kind none _ => kind.name
  | .mk kind (some element) _ => kind.name ++ "<" ++ element.label ++ ">"

namespace Report

def propertyRow (property : Property) : String :=
  let required := if property.isOptional then "no" else "yes"
  s!"| `{property.name}` | {property.type.label} | {required} |\n"

def propertyTable (properties : List Property) : String :=
  if properties.isEmpty then ""
  else
    "| Property | Type | Required |\n|---|---|---|\n" ++
      String.join (properties.map propertyRow) ++ "\n"

def nestedType (name : String) (named : NamedType) : String :=
  s!"\n## {name}\n\nDeclared by `{named.declarer}`.\n\n" ++
    propertyTable named.type.properties ++ "Used at:\n" ++
    String.join (named.paths.keys.map fun path ↦ s!"\n- `{path}`") ++ "\n"

def nestedTypes (provider : String) (registry : TypeRegistry) : String :=
  s!"# Nested types for {provider}\n\n{registry.size} named object types.\n" ++
    String.join (registry.types.entries.map fun entry ↦ nestedType entry.1 entry.2)

/-- Writes a file of the report. -/
def writeFile (directory name text : String) : FileAction Error Unit :=
  .explain (.outputFile name) (.change (·.writeText (Path.join directory name) text))

/-- Writes both forms of the registry into a directory, which is made if it is missing. -/
def writeNestedTypes (directory provider : String) (registry : TypeRegistry) :
    FileAction Error Unit := do
  .explain .outputDirectory (.change (·.makeDirectories directory))
  writeFile directory "nested_types.json" registry.toJson.pretty
  writeFile directory "nested_types.md" (nestedTypes provider registry)

end Report

end ProviderDocs
