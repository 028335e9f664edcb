import ProviderDocs.Text.Search

/-!
# Type tokens

A token `package:module/member:Name` says where an entity lives in the SDK. The module is the
part of the middle before the first slash; the name may hold further colons.
-/

namespace ProviderDocs

structure TypeToken where
  package : String
  module : String
  name : String
  deriving DecidableEq

namespace TypeToken

def parse? (token : String) : Option TypeToken := do
  let (package, rest) ← Text.splitAt? [':'] token.toList
  let (middle, name) ← Text.splitAt? [':'] rest
  some {
    package := String.ofList package
    module := String.ofList (middle.takeWhile (· != '/'))
    name := String.ofList name }

/-- The module as references name it; the module `index` is the package root. -/
def moduleName (token : TypeToken) : String := if token.module = "index" then "" else token.module

/-- The module and a dot, or nothing at the package root. -/
def qualifier (token : TypeToken) : String :=
  if token.moduleName.isEmpty then "" else token.moduleName ++ "."

/-- The name behind its module, as references inside the package write it. -/
def qualifiedName (token : TypeToken) : String := token.qualifier ++ token.name

end TypeToken

end ProviderDocs
