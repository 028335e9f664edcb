import ProviderDocs.Proofs.Markdown.SectionEdit
import ProviderDocs.Proofs.Markdown.TwoReadings
import ProviderDocs.Proofs.Stats

/-!
# Ignored sections

A section under an ignored heading does not show in what is parsed from a document, whatever stands
before it and behind it: its heading is counted, and nothing else changes.
-/

namespace ProviderDocs

/-! ## Counting one heading more -/

/-- The same is counted on both sides of one ignored heading more. -/
theorem keptByCounts_countIgnored (header : String) :
    Stats.KeptByCounts fun stats later ↦ later = stats.countIgnored header where
  count hcount stats later hlater := by
    subst hlater
    cases hcount with
    | ignored other =>
      simp only [Stats.countIgnored, Tally.add_comm _ header other]
    | _ => rfl

theorem Cleanup.cleanDoc_countIgnored (context : Context) (doc : EntityDoc) (stats : Stats)
    (header : String) :
    cleanDoc context doc (stats.countIgnored header) =
      { cleanDoc context doc stats with
        stats := (cleanDoc context doc stats).stats.countIgnored header } := by
  simp only [cleanDoc]
  cases cleanDescription context doc.description <;> rfl

namespace Markdown

/-! ## Reading -/

/-- The headings of sections that are skipped. -/
def ignoredHeaders : List String :=
  ["Timeout", "Timeouts", "User Project Override", "User Project Overrides"]

section Header

variable {header : String} (h : header ∈ ignoredHeaders)

include h

theorem ofLine_ignored : SectionKind.ofLine ("## " ++ header) = .ignored header := by
  revert header
  decide +kernel

theorem isExampleSection_ignored (body : List String) :
    isExampleSection (("## " ++ header) :: body) = false := by
  have hname : ∀ header ∈ ignoredHeaders, exampleName? ("## " ++ header) = none := by
    decide +kernel
  rw [isExampleSection, hname header h]
  rfl

theorem Reading.addSection_ignored (token : Option String) (reading : Reading)
    (body : List String) :
    reading.addSection token (("## " ++ header) :: body) =
      { reading with stats := reading.stats.countIgnored header } := by
  rw [addSection, ofLine_ignored h]

theorem Reading.addSections_insert_ignored (token : Option String)
    (front rest : List (List String)) (body : List String) :
    Reading.Alongside Eq (fun stats later ↦ later = stats.countIgnored header)
      (addSections token (front ++ rest))
      (addSections token (front ++ (("## " ++ header) :: body) :: rest)) := by
  have hkept : KeptByAdding Eq := fun heq text ↦ by rw [heq]
  unfold addSections
  rw [List.foldl_append, List.foldl_append, List.foldl_cons, addSection_ignored h]
  refine Alongside.foldl_addSection hkept (keptByCounts_countIgnored header) ?_ token rest
  exact ⟨.rfl, rfl, rfl, rfl⟩

end Header

theorem Reading.Alongside.eq {counts : Stats → Stats → Prop} {a b : Reading}
    (h : Reading.Alongside Eq counts a b) : b = { a with stats := b.stats } := by
  obtain ⟨⟨description, arguments, attributes, importText⟩, stats, importParts⟩ := a
  obtain ⟨⟨_, _, _, _⟩, others, _⟩ := b
  obtain ⟨⟨rfl, rfl, rfl⟩, rfl, rfl, -⟩ := h
  rfl

theorem Reading.cleaned_countIgnored (reading : Reading) (header : String)
    (context : Cleanup.Context) :
    { reading with stats := reading.stats.countIgnored header }.cleaned context =
      { reading.cleaned context with
        stats := (reading.cleaned context).stats.countIgnored header } := by
  simp only [cleaned, Cleanup.cleanDoc_countIgnored]
  split
  · rfl
  · rfl

/-! ## Parsing -/

section

variable {before body rest : List String} {header next : String}
  (hheader : header ∈ ignoredHeaders)
  (hlines : AreCleanLines (before ++ ("## " ++ header) :: (body ++ next :: rest)))
  (hbody : IsSectionBody body)
  (hnext : startsWith next "## " = true)

include hheader hbody hnext

theorem exists_sections_insert_ignored :
    ∃ front behind,
      foldExamples (sectionize "## " (before ++ next :: rest)) = front ++ behind ∧
      foldExamples (sectionize "## " (before ++ ("## " ++ header) :: (body ++ next :: rest))) =
        front ++ (("## " ++ header) :: body) :: behind := by
  have hafter : ∀ line ∈ (next :: rest).head?, startsWith line "## " = true := by
    rintro line ⟨⟩
    exact hnext
  have hheading : startsWith ("## " ++ header) "## " = true := startsWith_iff.mpr ⟨header, rfl⟩
  rw [sectionize_around before hheading hbody.noHeading hafter,
    sectionize_append_of_heading before (List.cons_ne_nil _ _) hafter]
  exact exists_foldExamples_insert (isExampleSection_ignored hheader body) _ _

include hlines

theorem readDocument_insert_ignored (mapping : Option EntityMapping) :
    readDocument mapping (joinLines (before ++ ("## " ++ header) :: (body ++ next :: rest))) =
      let reading := readDocument mapping (joinLines (before ++ next :: rest))
      { reading with stats := reading.stats.countIgnored header } := by
  have hsublist := ((List.sublist_append_right body (next :: rest)).cons
    ("## " ++ header)).append_left before
  have hwithout := hlines.areLines.of_subset hsublist.subset
  obtain ⟨front, behind, hfolded, hinserted⟩ :=
    @exists_sections_insert_ignored before body rest header next hheader hbody hnext
  simp only [readDocument]
  rw [sectionsOf_joinLines (by simp) hlines.areLines, hinserted,
    sectionsOf_joinLines (by simp) hwithout, hfolded]
  have halongside := Reading.addSections_insert_ignored hheader (mapping.map (·.token)) front behind
    body
  rw [halongside.eq, halongside.stats]

/--
A section under an ignored heading does not interfere with the rest of a document: `before` are the
lines of any text that ends with a line, and `next` begins the text behind the section. Only a
definition of a footer link in the section, or one at the end of `before` that takes the heading as
its target, could show elsewhere.
-/
theorem parse_insert_ignored
    (hlast : ∀ line ∈ before.getLast?, Cleanup.isNumberedLine line = false)
    (provider : Provider) (language : OutputLanguage) (mapping : Option EntityMapping) :
    parse provider language mapping
        (joinLines (before ++ ("## " ++ header) :: (body ++ next :: rest))) =
      let parsed := parse provider language mapping (joinLines (before ++ next :: rest))
      { parsed with stats := parsed.stats.countIgnored header } := by
  have hsublist := ((List.sublist_append_right body (next :: rest)).cons
    ("## " ++ header)).append_left before
  have hheading : startsWith ("## " ++ header) "## " = true := startsWith_iff.mpr ⟨header, rfl⟩
  have htargets := Cleanup.sameTargets_without_section hlines.areLines hheading hlast hbody.noLinks
    hnext
  have hwithout := withoutMarkers_joinLines (hlines.of_subset hsublist.subset)
  rw [parse_eq_cleaned (withoutMarkers_joinLines hlines), parse_eq_cleaned hwithout,
    Reading.cleaned_congr htargets, readDocument_insert_ignored hheader hlines hbody hnext,
    Reading.cleaned_countIgnored]

end

/-- The text before the section of time-outs and the text behind it share a footer link. -/
def bucketFront : List String := ["# Bucket", "See [the guide][1]."]

def bucketTimeouts : List String := ["", "* `create` - How long to wait.", "[2] is no link."]

def bucketRest : List String := ["* `name` - Its name, see [the guide][1].", "", "[1]: /guide"]

theorem parse_insert_ignored_bucketTimeouts :
    "Timeouts" ∈ ignoredHeaders ∧
      AreCleanLines (bucketFront ++
        ("## " ++ "Timeouts") :: (bucketTimeouts ++ "## Argument Reference" :: bucketRest)) ∧
      IsSectionBody bucketTimeouts ∧ startsWith "## Argument Reference" "## " = true ∧
      (∀ line ∈ bucketFront.getLast?, Cleanup.isNumberedLine line = false) ∧
      parse .empty .schema none (joinLines (bucketFront ++
          ("## " ++ "Timeouts") :: (bucketTimeouts ++ "## Argument Reference" :: bucketRest))) =
        let parsed := parse .empty .schema none
          (joinLines (bucketFront ++ "## Argument Reference" :: bucketRest))
        { parsed with stats := parsed.stats.countIgnored "Timeouts" } := by
  have hheader : "Timeouts" ∈ ignoredHeaders := by decide
  have hlines : AreCleanLines (bucketFront ++
      ("## " ++ "Timeouts") :: (bucketTimeouts ++ "## Argument Reference" :: bucketRest)) :=
    ⟨by decide +kernel, by decide +kernel, by decide +kernel⟩
  have hbody : IsSectionBody bucketTimeouts := ⟨by decide +kernel, by decide +kernel⟩
  have hnext : startsWith "## Argument Reference" "## " = true := by decide +kernel
  have hlast : ∀ line ∈ bucketFront.getLast?, Cleanup.isNumberedLine line = false := by
    decide +kernel
  exact ⟨hheader, hlines, hbody, hnext, hlast,
    parse_insert_ignored hheader hlines hbody hnext hlast .empty .schema none⟩

end Markdown

end ProviderDocs
