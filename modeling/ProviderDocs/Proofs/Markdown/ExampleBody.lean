import ProviderDocs.Proofs.Markdown.SectionEdit
import ProviderDocs.Proofs.Markdown.TwoReadings

/-!
# Examples and references

What stands below the heading of examples never shows among the attributes of a document. It shows
among the arguments only where a subsection of it is titled after an argument that is known by then:
such a subsection is read as the nested block of that argument, as in any section of prose.
-/

namespace ProviderDocs

namespace Markdown

open EntityDoc

namespace Reading

/-! ## Attributes -/

theorem attributes_addProse (reading : Reading) (header : String) (isFirst : Bool)
    (firstLine : String) (subsection : Subsection) :
    (reading.addProse header isFirst firstLine subsection).doc.attributes =
      reading.doc.attributes := by
  rw [addProse_eq]
  exact (congrArg EntityDoc.attributes (withoutArguments_scanTitled ..) :)

theorem attributes_addFrontMatter (reading : Reading) (frontMatter : FrontMatter) :
    (reading.addFrontMatter frontMatter).doc.attributes = reading.doc.attributes := by
  unfold addFrontMatter
  split <;> rfl

theorem attributes_addSchema (reading : Reading) (body : List String) :
    (reading.addSchema body).doc.attributes = reading.doc.attributes := by
  simp only [addSchema]
  split
  · rfl
  · exact attributes_record ..

/-- Below a heading of examples nothing becomes an attribute. -/
theorem attributes_addSubsections_exampleUsage (reading : Reading) (header : String)
    (token : Option String) (body : List String) :
    (reading.addSubsections .exampleUsage header token body).doc.attributes =
      reading.doc.attributes := by
  apply foldl_keeps fun reading : Reading ↦ reading.doc.attributes
  intro reading entry
  exact (attributes_addProse ..).trans (congrArg (·.attributes) (doc_countSnippets ..))

section Congr

variable {a b : Reading} (h : a.doc.attributes = b.doc.attributes)

include h

theorem attributes_addSubsection_congr (kind : SectionKind) (header : String)
    (token : Option String) (isFirst : Bool) (firstLine : String) (subsection : Subsection) :
    (a.addSubsection kind header token isFirst firstLine subsection).doc.attributes =
      (b.addSubsection kind header token isFirst firstLine subsection).doc.attributes := by
  unfold addSubsection
  split
  · exact (attributes_scanArguments ..).trans (h.trans (attributes_scanArguments ..).symm)
  · exact attributes_readAttributes_congr h _
  · exact h
  · rw [attributes_addProse, attributes_addProse, h]

theorem attributes_addSubsections_congr (kind : SectionKind) (header : String)
    (token : Option String) (body : List String) :
    (a.addSubsections kind header token body).doc.attributes =
      (b.addSubsections kind header token body).doc.attributes := by
  refine List.foldl_rel (r := fun a b : Reading ↦ a.doc.attributes = b.doc.attributes) h ?_
  intro entry _ a b hentry
  apply attributes_addSubsection_congr
  rw [doc_countSnippets, doc_countSnippets, hentry]

/-- What a section does to attributes depends on nothing else that was read before it. -/
theorem attributes_addSection_congr (token : Option String) (lines : List String) :
    (addSection token a lines).doc.attributes = (addSection token b lines).doc.attributes := by
  unfold addSection
  cases lines with
  | nil => exact h
  | cons first body =>
    dsimp only
    split
    · exact h
    · rw [attributes_addFrontMatter, attributes_addFrontMatter]
      split <;> exact h
    · rw [attributes_addFrontMatter, attributes_addFrontMatter, h]
    · rw [attributes_addSchema, attributes_addSchema, h]
    · exact attributes_addSubsections_congr h ..

theorem attributes_foldl_addSection_congr (token : Option String) (sections : List (List String)) :
    (sections.foldl (addSection token) a).doc.attributes =
      (sections.foldl (addSection token) b).doc.attributes :=
  List.foldl_rel (r := fun a b : Reading ↦ a.doc.attributes = b.doc.attributes) h
    fun lines _ _ _ hreading ↦ attributes_addSection_congr hreading token lines

end Congr

/-! ## Arguments -/

/-- The title of a subsection names exactly one argument. -/
def namesArgument (doc : EntityDoc) (header firstLine : String) : Bool :=
  (argumentsNamed doc (argumentOfTitle ((after? firstLine "### ").getD header))).length = 1

/-- Some subsection below a heading is titled after exactly one argument. -/
def titlesArgument (doc : EntityDoc) (header : String) (body : List String) : Bool :=
  ((sectionize "### " body).filterMap keptSubsection?).any fun entry ↦
    namesArgument doc header entry.1

/-- Readings of the same records, whatever their descriptions and statistics. -/
def SameReferences : Reading → Reading → Prop := Alongside (fun _ _ ↦ True) (fun _ _ ↦ True)

theorem SameReferences.symm {a b : Reading} (h : SameReferences a b) : SameReferences b a where
  records := ⟨h.records.arguments.symm, h.records.attributes.symm, h.records.importText.symm⟩
  importParts := h.importParts.symm
  description := trivial
  stats := trivial

theorem SameReferences.trans {a b c : Reading} (h : SameReferences a b)
    (hlater : SameReferences b c) : SameReferences a c where
  records := ⟨h.records.arguments.trans hlater.records.arguments,
    h.records.attributes.trans hlater.records.attributes,
    h.records.importText.trans hlater.records.importText⟩
  importParts := h.importParts.trans hlater.importParts
  description := trivial
  stats := trivial

theorem sameReferences_describe (reading : Reading) (text : String) :
    SameReferences reading (reading.describe text) :=
  ⟨⟨rfl, rfl, rfl⟩, rfl, trivial, trivial⟩

theorem sameReferences_countSnippets (reading : Reading) (kind : SectionKind)
    (subsection : Subsection) : SameReferences reading (reading.countSnippets kind subsection) := by
  unfold countSnippets
  split <;> exact ⟨⟨rfl, rfl, rfl⟩, rfl, trivial, trivial⟩

theorem sameReferences_addProse {reading : Reading} {header firstLine : String}
    (h : namesArgument reading.doc header firstLine = false) (isFirst : Bool)
    (subsection : Subsection) :
    SameReferences reading (reading.addProse header isFirst firstLine subsection) := by
  have hscan : SameReferences reading
      (reading.scanTitled ((after? firstLine "### ").getD header) subsection.lines) := by
    unfold scanTitled
    split
    · exact ⟨⟨rfl, rfl, rfl⟩, rfl, trivial, trivial⟩
    · next parent hparent => simp [namesArgument, hparent] at h
    · exact ⟨⟨rfl, rfl, rfl⟩, rfl, trivial, trivial⟩
  rw [addProse_eq]
  exact hscan.trans (sameReferences_describe ..)

/-- Without such titles a section of examples leaves all references as they are. -/
theorem sameReferences_addSubsections {reading : Reading} {header : String} {body : List String}
    (h : titlesArgument reading.doc header body = false) (token : Option String) :
    SameReferences reading (reading.addSubsections .exampleUsage header token body) := by
  unfold addSubsections
  refine List.foldlRecOn _ _ ⟨⟨rfl, rfl, rfl⟩, rfl, trivial, trivial⟩ ?_
  intro state hstate entry hentry
  have hmem := List.fst_mem_of_mem_zipIdx hentry
  have hcounted := hstate.trans (sameReferences_countSnippets state .exampleUsage entry.1.2)
  have htitle : namesArgument (state.countSnippets .exampleUsage entry.1.2).doc header entry.1.1 =
      false := by
    rw [namesArgument, ← argumentsNamed_eq hcounted.records]
    exact Bool.eq_false_iff.mpr (List.any_eq_false.mp h entry.1 hmem)
  exact hcounted.trans (sameReferences_addProse htitle _ _)

/-! ## Documents -/

/-- Reading sections, a folded section of examples has a subsection titled after an argument. -/
def scansExamples (token : Option String) : Reading → List (List String) → Bool
  | _, [] => false
  | reading, lines :: rest =>
    lines.head? = some "## Example Usage" &&
        titlesArgument reading.doc "Example Usage" lines.tail ||
      scansExamples token (reading.addSection token lines) rest

theorem titlesArgument_of_not_scansExamples {token : Option String} {reading : Reading}
    {before after : List (List String)} {lines : List String}
    (h : scansExamples token reading (before ++ ("## Example Usage" :: lines) :: after) = false) :
    titlesArgument (before.foldl (addSection token) reading).doc "Example Usage" lines = false := by
  induction before generalizing reading with
  | nil =>
    rw [List.nil_append, scansExamples, Bool.or_eq_false_iff] at h
    simpa using h.1
  | cons first before ih =>
    rw [List.cons_append, scansExamples, Bool.or_eq_false_iff] at h
    exact ih h.2

theorem addSection_exampleUsage (token : Option String) (reading : Reading) (lines : List String) :
    addSection token reading ("## Example Usage" :: lines) =
      reading.addSubsections .exampleUsage "Example Usage" token lines :=
  rfl

theorem attributes_addSections_body (token : Option String) (before after : List (List String))
    (lines others : List String) :
    (addSections token (before ++ ("## Example Usage" :: lines) :: after)).doc.attributes =
      (addSections token (before ++ ("## Example Usage" :: others) :: after)).doc.attributes := by
  simp only [addSections, List.foldl_append, List.foldl_cons, addSection_exampleUsage]
  apply attributes_foldl_addSection_congr
  rw [attributes_addSubsections_exampleUsage, attributes_addSubsections_exampleUsage]

theorem arguments_addSections_body {token : Option String} {before after : List (List String)}
    {lines others : List String}
    (hlines : scansExamples token .empty (before ++ ("## Example Usage" :: lines) :: after) = false)
    (hothers :
      scansExamples token .empty (before ++ ("## Example Usage" :: others) :: after) = false) :
    (addSections token (before ++ ("## Example Usage" :: lines) :: after)).doc.arguments =
      (addSections token (before ++ ("## Example Usage" :: others) :: after)).doc.arguments := by
  have hkept := sameReferences_addSubsections (titlesArgument_of_not_scansExamples hlines) token
  have hother := sameReferences_addSubsections (titlesArgument_of_not_scansExamples hothers) token
  simp only [addSections, List.foldl_append, List.foldl_cons, addSection_exampleUsage]
  exact (Alongside.foldl_addSection (fun _ _ ↦ trivial) ⟨fun _ _ _ _ ↦ trivial⟩
    (hkept.symm.trans hother) token after).records.arguments

theorem attributes_cleaned (reading : Reading) (context : Cleanup.Context) :
    (reading.cleaned context).doc.attributes =
      (Cleanup.cleanDict context reading.doc.attributes).1 :=
  rfl

theorem arguments_cleaned (reading : Reading) (context : Cleanup.Context) :
    (reading.cleaned context).doc.arguments =
      reading.doc.arguments.map fun _ argument ↦ (Cleanup.cleanArgument context argument).1 :=
  rfl

end Reading

theorem attributes_readDocument (mapping : Option EntityMapping) (markdown : String) :
    (readDocument mapping markdown).doc.attributes =
      (Reading.addSections (mapping.map (·.token)) (sectionsOf markdown)).doc.attributes :=
  rfl

theorem arguments_readDocument (mapping : Option EntityMapping) (markdown : String) :
    (readDocument mapping markdown).doc.arguments =
      (Reading.addSections (mapping.map (·.token)) (sectionsOf markdown)).doc.arguments :=
  rfl

/-- Among the examples of a document a subsection is titled after an argument. -/
def examplesFeedArguments (mapping : Option EntityMapping) (document : String) : Bool :=
  Reading.scansExamples (mapping.map (·.token)) .empty (sectionsOf (withoutMarkers document))

/--
Documents that differ in the body of an example section have the same attributes, and the same
arguments as well unless a subsection of the examples of one of them is titled after an argument.
Neither body may define footer links, which all texts can refer to.
-/
theorem references_parse_of_exampleBody {document other : String}
    {before body newBody after : List String}
    (hdocument : withoutMarkers document =
      joinLines (before ++ "## Example Usage" :: (body ++ after)))
    (hother : withoutMarkers other =
      joinLines (before ++ "## Example Usage" :: (newBody ++ after)))
    (hlines : AreLines (before ++ "## Example Usage" :: (body ++ after)))
    (hnewLines : AreLines (before ++ "## Example Usage" :: (newBody ++ after)))
    (hbody : IsSectionBody body) (hnewBody : IsSectionBody newBody)
    (hafter : ∀ line ∈ after.head?, startsWith line "## " = true)
    (provider : Provider) (language : OutputLanguage) (mapping : Option EntityMapping) :
    (parse provider language mapping document).doc.attributes =
        (parse provider language mapping other).doc.attributes ∧
      (examplesFeedArguments mapping document = false →
        examplesFeedArguments mapping other = false →
        (parse provider language mapping document).doc.arguments =
          (parse provider language mapping other).doc.arguments) := by
  have hheading : startsWith "## Example Usage" "## " = true := rfl
  have htargets := Cleanup.sameTargets_of_body hlines hnewLines hheading hbody.noLinks
    hnewBody.noLinks hafter
  have hplain : isPlainExampleHeading "## Example Usage" = true := rfl
  obtain ⟨front, behind, lines, others, hfolded, hnewFolded⟩ := exists_foldExamples_body
    ((cutGroups "## " before).1 :: (cutGroups "## " before).2) (cutGroups "## " after).2 hplain
    body newBody
  have hsections : sectionsOf (withoutMarkers document) =
      front ++ ("## Example Usage" :: lines) :: behind := by
    rw [hdocument, sectionsOf_joinLines (by simp) hlines,
      sectionize_around before hheading hbody.noHeading hafter, hfolded]
  have hnewSections : sectionsOf (withoutMarkers other) =
      front ++ ("## Example Usage" :: others) :: behind := by
    rw [hother, sectionsOf_joinLines (by simp) hnewLines,
      sectionize_around before hheading hnewBody.noHeading hafter, hnewFolded]
  rw [parse_eq_cleaned rfl, parse_eq_cleaned rfl, hdocument, hother, Reading.cleaned_congr htargets,
    ← hdocument, ← hother]
  simp only [Reading.attributes_cleaned, Reading.arguments_cleaned, attributes_readDocument,
    arguments_readDocument, examplesFeedArguments, hsections, hnewSections]
  refine ⟨?_, fun hfeeds hnewFeeds ↦ ?_⟩
  · rw [Reading.attributes_addSections_body]
  · rw [Reading.arguments_addSections_body hfeeds hnewFeeds]

/-- The reference of a bucket, before its examples. -/
def ruleReference : List String := ["## Argument Reference", "* `rule` - Rule."]

/-- Examples with and without titles of subsections that are no arguments. -/
def basicExample : List String := ["Some text.", "### Basic", "* `id` - Id.", ""]

def titledExample : List String := ["### rule", "* `id` - Id.", ""]

/-- A document with the reference and an example below it. -/
def exampleDocument (body : List String) : String :=
  joinLines (ruleReference ++ "## Example Usage" :: (body ++ []))

theorem references_parse_of_exampleBody_basicExample :
    withoutMarkers (exampleDocument basicExample) = exampleDocument basicExample ∧
      withoutMarkers (exampleDocument [""]) = exampleDocument [""] ∧
      IsSectionBody basicExample ∧ IsSectionBody [""] ∧
      examplesFeedArguments none (exampleDocument basicExample) = false ∧
      examplesFeedArguments none (exampleDocument [""]) = false ∧
      (parse .empty .schema none (exampleDocument basicExample)).doc.arguments =
        (parse .empty .schema none (exampleDocument [""])).doc.arguments := by
  have hdocument :
      withoutMarkers (exampleDocument basicExample) = exampleDocument basicExample := by
    decide +kernel
  have hother : withoutMarkers (exampleDocument [""]) = exampleDocument [""] := by decide +kernel
  have hbody : IsSectionBody basicExample := ⟨by decide +kernel, by decide +kernel⟩
  have hnewBody : IsSectionBody [""] := ⟨by decide +kernel, by decide +kernel⟩
  have hfeeds : examplesFeedArguments none (exampleDocument basicExample) = false := by
    decide +kernel
  have hnewFeeds : examplesFeedArguments none (exampleDocument [""]) = false := by decide +kernel
  obtain ⟨-, harguments⟩ := references_parse_of_exampleBody hdocument hother
    (by decide +kernel) (by decide +kernel) hbody hnewBody (by simp) .empty .schema none
  exact ⟨hdocument, hother, hbody, hnewBody, hfeeds, hnewFeeds, harguments hfeeds hnewFeeds⟩

/-- An example titled after an argument is read as the nested block of it. -/
theorem arguments_parse_titledExample_ne :
    IsSectionBody titledExample ∧ IsSectionBody [""] ∧
      (parse .empty .schema none (exampleDocument titledExample)).doc.arguments ≠
        (parse .empty .schema none (exampleDocument [""])).doc.arguments :=
  ⟨⟨by decide +kernel, by decide +kernel⟩, ⟨by decide +kernel, by decide +kernel⟩,
    by decide +kernel⟩

end Markdown

end ProviderDocs
