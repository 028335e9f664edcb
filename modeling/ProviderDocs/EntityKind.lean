/-!
# Kinds of documented entities

A provider documents resources, which it manages, and data sources, which it only reads.
-/

namespace ProviderDocs

inductive EntityKind where
  | resource
  | dataSource
  deriving DecidableEq, Repr, Inhabited

namespace EntityKind

/-- The directory below `docs` that holds the documents of the kind. -/
def directory : EntityKind → String
  | resource => "resources"
  | dataSource => "data-sources"

/-- The directory below `website/docs`, the older layout. -/
def legacyDirectory : EntityKind → String
  | resource => "r"
  | dataSource => "d"

/-- The kind as messages name it. -/
def label : EntityKind → String
  | resource => "resource"
  | dataSource => "data source"

/-- Records name a kind by its directory. -/
def ofName? : String → Option EntityKind
  | "resources" => some resource
  | "data-sources" => some dataSource
  | _ => none

end EntityKind

end ProviderDocs
