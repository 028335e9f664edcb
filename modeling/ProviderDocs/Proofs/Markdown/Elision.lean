import ProviderDocs.Proofs.Markdown.TwoReadings

/-!
# What is lost in a document

Reading a document loses nothing; texts are lost by cleanup only. The flag of a parsed document
stands for the texts that are lost whole. Prose that is dropped beside its examples is counted, but
the flag does not tell of it.
-/

namespace ProviderDocs

/-! ## Counters of lost text -/

namespace Stats

/-- A text is lost whole: that of an argument or an attribute, or a description. -/
def CountsLoss (stats : Stats) : Prop :=
  stats.elidedArguments ≠ 0 ∨ stats.elidedAttributes ≠ 0 ∨ stats.elidedDescriptions ≠ 0

/-- Some text is lost, if only the prose beside examples. -/
def CountsElision (stats : Stats) : Prop :=
  stats.elidedArguments ≠ 0 ∨ stats.elidedAttributes ≠ 0 ∨ stats.elidedDescriptions ≠ 0 ∨
    stats.elidedProse ≠ 0

instance (stats : Stats) : Decidable stats.CountsLoss :=
  inferInstanceAs (Decidable (_ ∨ _ ∨ _))

instance (stats : Stats) : Decidable stats.CountsElision :=
  inferInstanceAs (Decidable (_ ∨ _ ∨ _ ∨ _))

theorem countsElision_iff_countsLoss_or (stats : Stats) :
    stats.CountsElision ↔ stats.CountsLoss ∨ stats.elidedProse ≠ 0 := by
  simp only [CountsElision, CountsLoss, or_assoc]

theorem countsElision_merge (a b : Stats) :
    (a.merge b).CountsElision ↔ a.CountsElision ∨ b.CountsElision := by
  simp only [CountsElision, merge]
  omega

theorem countsElision_foldl_merge (list : List Stats) (start : Stats) :
    (list.foldl merge start).CountsElision ↔
      start.CountsElision ∨ ∃ stats ∈ list, stats.CountsElision := by
  induction list generalizing start with
  | nil => simp
  | cons stats rest ih =>
    rw [List.foldl_cons, ih, countsElision_merge, or_assoc]
    simp

end Stats

/-! ## Cleanup -/

namespace Cleanup

/-- The flag stands for what cleanup counts as lost whole. -/
theorem elided_cleanDoc_iff (context : Context) (doc : EntityDoc) {stats : Stats}
    (h : ¬ stats.CountsLoss) :
    (cleanDoc context doc stats).elided = true ↔ (cleanDoc context doc stats).stats.CountsLoss := by
  obtain ⟨harguments, hattributes, hdescriptions⟩ :
      stats.elidedArguments = 0 ∧ stats.elidedAttributes = 0 ∧ stats.elidedDescriptions = 0 := by
    simpa [Stats.CountsLoss] using h
  simp only [cleanDoc, Stats.CountsLoss]
  cases cleanDescription context doc.description with
  | kept text => simp [DescriptionOutcome.record, harguments, hattributes, hdescriptions]; omega
  | examplesKept text =>
    simp [DescriptionOutcome.record, Stats.warn, harguments, hattributes, hdescriptions]; omega
  | elided => simp [DescriptionOutcome.record, Stats.warn]

end Cleanup

/-! ## Parsing -/

namespace Markdown

theorem keptByCounts_not_countsLoss :
    Stats.KeptByCounts fun stats _ ↦ ¬ stats.CountsLoss where
  count hcount _ _ h := by cases hcount <;> exact h

/-- Nothing is lost by reading. -/
theorem not_countsLoss_readDocument (mapping : Option EntityMapping) (markdown : String) :
    ¬ (readDocument mapping markdown).stats.CountsLoss := by
  have hstart : Reading.Alongside Eq (fun stats _ ↦ ¬ stats.CountsLoss) .empty .empty :=
    ⟨.rfl, rfl, rfl, by decide⟩
  have hkept : Reading.KeptByAdding Eq := fun h text ↦ by rw [h]
  have hend := hstart.foldl_addSection hkept keptByCounts_not_countsLoss
    (mapping.map (·.token)) (sectionsOf markdown)
  have hstats := hend.stats
  unfold readDocument Reading.addSections
  exact hstats

/-- The flag of a parsed document stands for the texts that are lost whole. -/
theorem elided_parse_iff_countsLoss (provider : Provider) (language : OutputLanguage)
    (mapping : Option EntityMapping) (markdown : String) :
    (parse provider language mapping markdown).elided = true ↔
      (parse provider language mapping markdown).stats.CountsLoss := by
  have hclean := Cleanup.elided_cleanDoc_iff
    ⟨language, provider, Cleanup.linkTargets (withoutMarkers markdown)⟩
    (readDocument mapping (withoutMarkers markdown)).doc
    (not_countsLoss_readDocument mapping (withoutMarkers markdown))
  simp only [parse]
  refine hclean.trans ?_
  split
  · rfl
  · rfl

end Markdown

end ProviderDocs
