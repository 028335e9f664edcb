import ProviderDocs.Dict
import ProviderDocs.Naming.Case

/-!
# Candidate names of nested types

A nested type is named after the properties that lead to it from the type of its entity. On
the way down, the graph keeps every name that skips some of them, so that a shorter name can
be chosen.
-/

namespace ProviderDocs

/-- The candidates for the type of one property. -/
structure TypeNameNode where
  /-- All candidates, in the order they were made. -/
  paths : List String
  /-- The candidate that skips no property. -/
  longest : String
  deriving DecidableEq

structure TypeNameGraph where
  /-- The name of the entity's type. -/
  root : String
  /-- All candidates made so far. -/
  paths : List String
  /-- The candidate that skips no property, at each depth. -/
  longestPath : List String
  branches : Dict TypeNameNode
  deriving DecidableEq

namespace TypeNameGraph

def ofRoot (root : String) : TypeNameGraph := ⟨root, [], [], ∅⟩

/-- The candidates that a further segment makes. -/
def extend (graph : TypeNameGraph) (segment : String) : TypeNameNode where
  paths :=
    match graph.paths with
    | [] => [graph.root ++ segment]
    | paths => paths.map (· ++ segment)
  longest := graph.longestPath.getLast?.getD graph.root ++ segment

/-- The graph below the property `name`. A property named like the root adds nothing. -/
def branch (graph : TypeNameGraph) (name : String) : TypeNameGraph :=
  if name = graph.root then graph
  else
    let node := graph.extend (Naming.pascalCase name)
    { root := graph.root
      paths := graph.paths ++ node.paths
      longestPath := graph.longestPath ++ [node.longest]
      branches := graph.branches.insert name node }

def node? (graph : TypeNameGraph) (name : String) : Option TypeNameNode := graph.branches.get? name

end TypeNameGraph

end ProviderDocs
