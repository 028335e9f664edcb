import ProviderDocs.Dict

/-!
# Documentation records

The documentation of one entity: a description, its arguments and its attributes, and how an
existing one is imported. Bullets of a nested block are recorded twice, under the argument
the block describes and, as a copy, under their own name.
-/

namespace ProviderDocs

structure ArgumentDoc where
  description : String
  /-- Descriptions of the fields of an argument that is an object. -/
  nested : Dict String
  /-- The record copies a field of another argument. -/
  isNested : Bool
  deriving DecidableEq

namespace ArgumentDoc

def empty : ArgumentDoc := ⟨"", ∅, false⟩

instance : Inhabited ArgumentDoc := ⟨empty⟩

end ArgumentDoc

structure EntityDoc where
  description : String
  arguments : Dict ArgumentDoc
  attributes : Dict String
  /-- How to import an existing entity; empty when nothing is said. -/
  importText : String
  deriving DecidableEq

namespace EntityDoc

def empty : EntityDoc := ⟨"", ∅, ∅, ""⟩

instance : Inhabited EntityDoc := ⟨empty⟩

def isEmpty (doc : EntityDoc) : Bool :=
  doc.description.isEmpty && doc.arguments.isEmpty && doc.attributes.isEmpty &&
    doc.importText.isEmpty

/-- The record of an argument, empty when there is none. -/
def argument (doc : EntityDoc) (name : String) : ArgumentDoc :=
  (doc.arguments.get? name).getD .empty

/-- Changes the record of an argument, which is made when there is none. -/
def updateArgument (doc : EntityDoc) (name : String) (change : ArgumentDoc → ArgumentDoc) :
    EntityDoc :=
  { doc with arguments := doc.arguments.insert name (change (doc.argument name)) }

def setAttribute (doc : EntityDoc) (name description : String) : EntityDoc :=
  { doc with attributes := doc.attributes.insert name description }

/-! ## Overlays -/

/-- Enters every description of `texts` into `dict`. -/
def overlayTexts (dict texts : Dict String) : Dict String :=
  texts.entries.foldl (fun dict entry ↦ dict.insert entry.1 entry.2) dict

/-- The attributes of `source` join those of `doc`. -/
def includeAttributes (doc source : EntityDoc) : EntityDoc :=
  { doc with attributes := overlayTexts doc.attributes source.attributes }

/-- The arguments of `source`, each followed by its nested fields, become attributes. -/
def includeArgumentsAsAttributes (doc source : EntityDoc) : EntityDoc :=
  { doc with
    attributes := source.arguments.entries.foldl
      (fun attributes entry ↦
        overlayTexts (attributes.insert entry.1 entry.2.description) entry.2.nested)
      doc.attributes }

/-- The arguments of `source` replace descriptions and add to nested fields. -/
def includeArguments (doc source : EntityDoc) : EntityDoc :=
  source.arguments.entries.foldl
    (fun doc entry ↦ doc.updateArgument entry.1 fun argument ↦
      { argument with
        description := entry.2.description
        nested := overlayTexts argument.nested entry.2.nested })
    doc

end EntityDoc

end ProviderDocs
