import ProviderDocs.Dict
import ProviderDocs.EntityKind
import ProviderDocs.Text.Search

/-!
# Provider mappings

A mapping says to which token of the SDK each entity of a provider goes, and overrides its
documentation and its fields.
-/

namespace ProviderDocs

/-- Overrides for one field. Entries are in key order, as in a dictionary. -/
inductive FieldOverride where
  | mk (name : Option String) (omitted : Bool) (nestedTypeName : Option String)
    (element : Option FieldOverride) (fields : List (String × FieldOverride))

namespace FieldOverride

/-- The name of the property in the SDK. -/
def name : FieldOverride → Option String
  | mk name _ _ _ _ => name

/-- The field is left out. -/
def omitted : FieldOverride → Bool
  | mk _ omitted _ _ _ => omitted

/-- A fixed name for the nested object type of the field. -/
def nestedTypeName : FieldOverride → Option String
  | mk _ _ nestedTypeName _ _ => nestedTypeName

/-- Overrides for the element of a collection. -/
def element : FieldOverride → Option FieldOverride
  | mk _ _ _ element _ => element

/-- Overrides for the fields of an object. -/
def fields : FieldOverride → List (String × FieldOverride)
  | mk _ _ _ _ fields => fields

/-- Overrides for the fields of the object type, which may be that of the element. -/
def fieldOverrides? (override : FieldOverride) : Option (List (String × FieldOverride)) :=
  if override.fields.isEmpty then override.element.map (·.fields) else some override.fields

/-- A fixed name given for the field or else for its element. -/
def givenTypeName? (override : FieldOverride) : Option String :=
  override.nestedTypeName.or (override.element.bind (·.nestedTypeName))

end FieldOverride

/-- Overrides keyed by field name, in key order. -/
abbrev FieldOverrides := List (String × FieldOverride)

structure DocOverride where
  /-- Markdown to use in place of the provider's document. -/
  markdown : Option String
  /-- One more file name to look for. -/
  source : Option String
  /-- The body of the import section. -/
  importDetails : Option String
  /-- The entity whose attributes are copied. -/
  attributesFrom : Option String
  /-- The entity whose arguments are copied as attributes. -/
  attributesFromArguments : Option String
  /-- The entity whose arguments are copied. -/
  argumentsFrom : Option String
  deriving DecidableEq

structure EntityMapping where
  token : String
  docs : Option DocOverride
  fields : FieldOverrides

structure Provider where
  name : String
  resourcePrefix : Option String
  organization : Option String
  gitHost : String
  resources : Dict EntityMapping
  dataSources : Dict EntityMapping

namespace Provider

def defaultHost : String := "github.com"

/-- A provider without mappings; one read from a file has the default host instead of none. -/
def empty : Provider := ⟨"", none, none, "", ∅, ∅⟩

instance : Inhabited Provider := ⟨empty⟩

/-- The first part of the names of entities, the provider's name unless set. -/
def entityPrefix (provider : Provider) : String := provider.resourcePrefix.getD provider.name

def organizationName (provider : Provider) : String :=
  provider.organization.getD "terraform-providers"

def entity? (provider : Provider) (kind : EntityKind) (name : String) : Option EntityMapping :=
  match kind with
  | .resource => provider.resources.get? name
  | .dataSource => provider.dataSources.get? name

end Provider

/-- An entity's name without the provider's prefix and the underscore after it. -/
def shortName (prefixText name : String) : String :=
  ((after? name prefixText).bind (after? · "_")).getD name

end ProviderDocs
