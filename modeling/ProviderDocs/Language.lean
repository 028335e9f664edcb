/-!
# Languages

A generation run produces one output language. Examples are converted to target languages,
one or several for each output language.
-/

namespace ProviderDocs

/-! ## Target languages of examples -/

inductive TargetLanguage where
  | typescript
  | python
  | csharp
  | go
  | yaml
  | java
  | pcl
  deriving DecidableEq, Repr, Inhabited

namespace TargetLanguage

def all : List TargetLanguage := [typescript, python, csharp, go, yaml, java, pcl]

/-- The name of the language, which is also its hint after a code fence. -/
def name : TargetLanguage → String
  | typescript => "typescript"
  | python => "python"
  | csharp => "csharp"
  | go => "go"
  | yaml => "yaml"
  | java => "java"
  | pcl => "pcl"

def ofName? (name : String) : Option TargetLanguage := all.find? (·.name = name)

/-- Users may also name a language by its SDK. -/
def ofUserName? : String → Option TargetLanguage
  | "nodejs" => some typescript
  | "dotnet" => some csharp
  | name => ofName? name

/-- The place of a language in docs: four fixed places, then the others by name. -/
def docsKey : TargetLanguage → Nat × String
  | typescript => (0, "")
  | python => (1, "")
  | csharp => (2, "")
  | go => (3, "")
  | language => (4, language.name)

/-- A language stands no later than another one in docs. -/
def docsLe (a b : TargetLanguage) : Bool :=
  a.docsKey.1 < b.docsKey.1 || (a.docsKey.1 = b.docsKey.1 && a.docsKey.2 ≤ b.docsKey.2)

end TargetLanguage

/-! ## Output languages -/

inductive OutputLanguage where
  | nodejs
  | python
  | csharp
  | golang
  | pcl
  /-- The package schema, which carries examples for every SDK. -/
  | schema
  deriving DecidableEq, Repr, Inhabited

namespace OutputLanguage

def all : List OutputLanguage := [nodejs, python, csharp, golang, pcl, schema]

def name : OutputLanguage → String
  | nodejs => "nodejs"
  | python => "python"
  | csharp => "csharp"
  | golang => "golang"
  | pcl => "pcl"
  | schema => "schema"

def ofName? (name : String) : Option OutputLanguage := all.find? (·.name = name)

/-- The languages that examples are converted to. -/
def targets : OutputLanguage → List TargetLanguage
  | nodejs => [.typescript]
  | python => [.python]
  | csharp => [.csharp]
  | golang => [.go]
  | pcl => [.pcl]
  | schema => [.typescript, .python, .csharp, .go, .yaml, .java]

end OutputLanguage

end ProviderDocs
