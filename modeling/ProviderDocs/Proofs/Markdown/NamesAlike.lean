import ProviderDocs.Markdown.Document
import ProviderDocs.Proofs.Cleanup.Loss

/-!
# What a document takes from the mappings of a provider

Of all mappings only the tokens count for a document, since references are renamed by them, and of
the mapping of the document's own entity what is handed over with the document. So mappings that
name all entities alike give the same documentation.
-/

namespace ProviderDocs

/-- Two providers name all entities alike: names, prefixes and tokens are the same. -/
structure Provider.NamesAlike (provider other : Provider) : Prop where
  name : other.name = provider.name
  entityPrefix : other.entityPrefix = provider.entityPrefix
  resources : ∀ name,
    (other.resources.get? name).map (·.token) = (provider.resources.get? name).map (·.token)
  dataSources : ∀ name,
    (other.dataSources.get? name).map (·.token) = (provider.dataSources.get? name).map (·.token)

namespace Cleanup

variable {context other : Context}

/-! ## Renaming -/

/-- The token of a mapping is all that a name is looked up for. -/
theorem bind_parse?_congr {mappings others : Dict EntityMapping} {name : String}
    (h : (others.get? name).map (·.token) = (mappings.get? name).map (·.token)) :
    (others.get? name).bind (TypeToken.parse? ·.token) =
      (mappings.get? name).bind (TypeToken.parse? ·.token) := by
  have htoken := congrArg (·.bind TypeToken.parse?) h
  rw [Option.bind_map, Option.bind_map] at htoken
  exact htoken

theorem newName?_congr {provider other : Provider} (h : provider.NamesAlike other)
    (language : OutputLanguage) (linkTargets : Dict String) :
    newName? ⟨language, other, linkTargets⟩ = newName? ⟨language, provider, linkTargets⟩ := by
  funext name
  simp only [newName?, bind_parse?_congr (h.resources name), bind_parse?_congr (h.dataSources name),
    resourceReference, dataSourceReference, propertyReference?, h.name]

theorem renameReferences_congr (h : newName? other = newName? context) :
    renameReferences other = renameReferences context := by
  have hrenamed : renamed other = renamed context := by
    funext word
    rw [renamed, renamed, h]
  have hdelimited : delimitedWord? other = delimitedWord? context := by
    funext text
    unfold delimitedWord?
    rw [hrenamed]
  have hticked : tickedWord? other = tickedWord? context := by
    funext text
    unfold tickedWord?
    rw [hrenamed]
  funext text
  rw [renameReferences, renameReferences, hdelimited, hticked]

/-! ## Texts -/

theorem cleanText?_eq_of_newName?_eq (hnames : newName? other = newName? context)
    (htargets : other.linkTargets = context.linkTargets) :
    cleanText? other = cleanText? context := by
  have hpiece : cleanPiece? other = cleanPiece? context := by
    funext piece
    unfold cleanPiece? adaptProse
    rw [renameReferences_congr hnames, htargets]
  funext text
  rw [cleanText?, cleanText?, hpiece]

end Cleanup

/-! ## Documents -/

theorem Markdown.parse_congr {provider other : Provider} (h : provider.NamesAlike other)
    (language : OutputLanguage) (mapping : Option EntityMapping) (markdown : String) :
    parse other language mapping markdown = parse provider language mapping markdown := by
  have hclean (linkTargets : Dict String) :
      Cleanup.cleanDoc ⟨language, other, linkTargets⟩ =
        Cleanup.cleanDoc ⟨language, provider, linkTargets⟩ := by
    apply Cleanup.cleanDoc_congr
    exact Cleanup.cleanText?_eq_of_newName?_eq (Cleanup.newName?_congr h language linkTargets) rfl
  simp only [parse, hclean]

end ProviderDocs
