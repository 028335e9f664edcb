import ProviderDocs.Proofs.DocSource.Lookup

/-!
# Runs that document an entity

Documenting an entity may document others in its turn, and each of them still others. That such a
run ends rests on the others being documented without their mappings, so that a mapping that names
its own entity, or mappings that name each other, lead nowhere.
-/

namespace ProviderDocs

namespace DocSource

open Markdown

mutual

/-- Documenting an entity with a mapping looks up some documents, one after the other, and ends with
a result. The document of the entity comes first. -/
inductive Runs (source : DocSource) (files : FileTree) (kind : EntityKind) :
    String → Option EntityMapping → List Lookup → Except Error ParsedDoc → Prop
  | unreadable {name mapping error} (h : source.find files kind name mapping = .error error) :
    Runs source files kind name mapping [⟨name, mapping⟩] (.error error)
  | refused {name mapping} (h : source.find files kind name mapping = .ok none)
    (hrequired : source.requireDocs = true) :
    Runs source files kind name mapping [⟨name, mapping⟩] (.error (.docsMissing kind name))
  | missing {name mapping} (h : source.find files kind name mapping = .ok none)
    (hrequired : source.requireDocs = false) :
    Runs source files kind name mapping [⟨name, mapping⟩] (.ok undocumented)
  | found {name mapping markdown file looked result}
    (h : source.find files kind name mapping = .ok (some (markdown, file)))
    (hrest : TakesOver source files kind (overlays mapping)
      (parse source.provider source.language mapping markdown) looked result) :
    Runs source files kind name mapping (⟨name, mapping⟩ :: looked) result

/-- Taking over from other entities documents each of these without its mapping. -/
inductive TakesOver (source : DocSource) (files : FileTree) (kind : EntityKind) :
    List Overlay → ParsedDoc → List Lookup → Except Error ParsedDoc → Prop
  | done {parsed} : TakesOver source files kind [] parsed [] (.ok parsed)
  | failed {overlay rest parsed looked error}
    (h : Runs source files kind overlay.name none looked (.error error)) :
    TakesOver source files kind (overlay :: rest) parsed looked (.error error)
  | taken {overlay rest parsed other looked more result}
    (h : Runs source files kind overlay.name none looked (.ok other))
    (hrest : TakesOver source files kind rest (overlay.over parsed other) more result) :
    TakesOver source files kind (overlay :: rest) parsed (looked ++ more) result

end

section Runs

variable {source : DocSource} {files : FileTree} {kind : EntityKind}

section Found

variable {name : String} {mapping : Option EntityMapping} {looked : List Lookup}
  {result : Except Error ParsedDoc}

theorem runs_iff_of_found {markdown file : String}
    (h : source.find files kind name mapping = .ok (some (markdown, file))) :
    Runs source files kind name mapping looked result ↔
      ∃ more, looked = ⟨name, mapping⟩ :: more ∧
        TakesOver source files kind (overlays mapping)
          (parse source.provider source.language mapping markdown) more result := by
  constructor
  · rintro (hrun | ⟨hrun, -⟩ | ⟨hrun, -⟩ | ⟨hrun, hrest⟩)
    · cases h.symm.trans hrun
    · cases h.symm.trans hrun
    · cases h.symm.trans hrun
    · cases h.symm.trans hrun
      exact ⟨_, rfl, hrest⟩
  · rintro ⟨more, rfl, hrest⟩
    exact .found h hrest

/-- Without the entity's own document nothing else is looked up. -/
theorem runs_iff_of_not_found
    (h : ∀ document, source.find files kind name mapping ≠ .ok (some document)) :
    Runs source files kind name mapping looked result ↔
      looked = [⟨name, mapping⟩] ∧
        result = (source.ownDocs files kind name mapping).map (·.1) := by
  unfold ownDocs
  constructor
  · rintro (hfind | ⟨hfind, hrequired⟩ | ⟨hfind, hrequired⟩ | ⟨hfind, -⟩)
    · rw [hfind]
      exact ⟨rfl, rfl⟩
    · rw [hfind, hrequired]
      exact ⟨rfl, rfl⟩
    · rw [hfind, hrequired]
      exact ⟨rfl, rfl⟩
    · exact absurd hfind (h _)
  · rintro ⟨rfl, rfl⟩
    cases hfind : source.find files kind name mapping with
    | error error => exact .unreadable hfind
    | ok document =>
      cases document with
      | some document => exact absurd hfind (h document)
      | none =>
        cases hrequired : source.requireDocs with
        | true => exact .refused hfind hrequired
        | false => exact .missing hfind hrequired

end Found

/-- Without a mapping a run looks up one document. -/
theorem runs_none_iff {name : String} {looked : List Lookup} {result : Except Error ParsedDoc} :
    Runs source files kind name none looked result ↔
      looked = [⟨name, none⟩] ∧
        result = (source.ownDocs files kind name none).map (·.1) := by
  by_cases hfound : ∃ document, source.find files kind name none = .ok (some document)
  · obtain ⟨⟨markdown, file⟩, hfind⟩ := hfound
    rw [runs_iff_of_found hfind, ownDocs_of_found hfind]
    constructor
    · rintro ⟨_, rfl, ⟨⟩⟩
      exact ⟨rfl, rfl⟩
    · rintro ⟨rfl, rfl⟩
      exact ⟨[], rfl, .done⟩
  · exact runs_iff_of_not_found (not_exists.mp hfound)

variable (source files kind) in
/-- Taking over ends in one way. It looks up the entities in order, up to one that fails. -/
theorem exists_takesOver_iff (overlays : List Overlay) (parsed : ParsedDoc) :
    ∃ looked, looked <+: overlays.map (fun overlay ↦ ⟨overlay.name, none⟩) ∧
      ∀ trace result, TakesOver source files kind overlays parsed trace result ↔
        trace = looked ∧ result = overlays.foldlM (source.layOver files kind) parsed := by
  induction overlays generalizing parsed with
  | nil =>
    refine ⟨[], List.prefix_rfl, fun trace result ↦ ⟨?_, ?_⟩⟩
    · rintro ⟨⟩
      exact ⟨rfl, rfl⟩
    · rintro ⟨rfl, rfl⟩
      exact .done
  | cons overlay rest ih =>
    cases hown : source.ownDocs files kind overlay.name none with
    | error error =>
      have hruns : ∀ looked result, Runs source files kind overlay.name none looked result ↔
          looked = [⟨overlay.name, none⟩] ∧ result = .error error := by
        intro looked result
        rw [runs_none_iff, hown]
        rfl
      refine ⟨[⟨overlay.name, none⟩], ⟨_, rfl⟩, fun trace result ↦ ?_⟩
      rw [foldlM_layOver_cons_of_error hown]
      constructor
      · rintro (_ | h | ⟨h, -⟩)
        · exact (hruns _ _).mp h
        · cases ((hruns _ _).mp h).2
      · rintro ⟨rfl, rfl⟩
        exact .failed ((hruns _ _).mpr ⟨rfl, rfl⟩)
    | ok found =>
      obtain ⟨other, isFound⟩ := found
      have hruns : ∀ looked result, Runs source files kind overlay.name none looked result ↔
          looked = [⟨overlay.name, none⟩] ∧ result = .ok other := by
        intro looked result
        rw [runs_none_iff, hown]
        rfl
      obtain ⟨looked, hprefix, hrest⟩ := ih (overlay.over parsed other)
      refine ⟨⟨overlay.name, none⟩ :: looked, (List.prefix_cons_inj _).mpr hprefix,
        fun trace result ↦ ?_⟩
      rw [foldlM_layOver_cons_of_ok hown]
      constructor
      · rintro (_ | h | ⟨h, htaken⟩)
        · cases ((hruns _ _).mp h).2
        · obtain ⟨rfl, hother⟩ := (hruns _ _).mp h
          cases hother
          obtain ⟨rfl, rfl⟩ := (hrest _ _).mp htaken
          exact ⟨rfl, rfl⟩
      · rintro ⟨rfl, rfl⟩
        exact .taken ((hruns _ _).mpr ⟨rfl, rfl⟩) ((hrest _ _).mpr ⟨rfl, rfl⟩)

variable (source files kind) in
/-- Whatever the mapping, documenting an entity ends in one way. -/
theorem exists_runs_iff (name : String) (mapping : Option EntityMapping) :
    ∃ looked, looked <+: lookups name mapping ∧
      ∀ trace result, Runs source files kind name mapping trace result ↔
        trace = looked ∧ result = source.docsWith files kind name mapping := by
  by_cases hfound : ∃ document, source.find files kind name mapping = .ok (some document)
  · obtain ⟨⟨markdown, file⟩, hfind⟩ := hfound
    obtain ⟨more, hprefix, hmore⟩ := exists_takesOver_iff source files kind
      (overlays mapping) (parse source.provider source.language mapping markdown)
    refine ⟨⟨name, mapping⟩ :: more, ?_, fun trace result ↦ ?_⟩
    · exact (List.prefix_cons_inj _).mpr hprefix
    · rw [runs_iff_of_found hfind, docsWith_of_found hfind]
      simp only [hmore, and_left_comm, exists_eq_left]
  · refine ⟨[⟨name, mapping⟩], ⟨_, rfl⟩, fun trace result ↦ ?_⟩
    have hnone := not_exists.mp hfound
    rw [runs_iff_of_not_found hnone, docsWith_of_not_found hnone]

end Runs

/-! ## The documentation of an entity -/

/-- A bucket takes over the attributes of a rule and its own arguments. -/
def bucketMapping : EntityMapping :=
  ⟨"aws:s3/bucket:Bucket", some ⟨none, none, none, some "aws_rule", none, some "aws_bucket"⟩, []⟩

/-- A rule takes over the arguments of the bucket. -/
def ruleOverride : DocOverride :=
  ⟨none, none, none, none, none, some "aws_bucket"⟩

def knottedBucket (ruleDocs : Option DocOverride) : DocSource where
  repository := "/aws"
  provider :=
    { Provider.empty with
      name := "aws"
      gitHost := Provider.defaultHost
      resources := (Dict.empty.insert "aws_bucket" bucketMapping).insert "aws_rule"
        ⟨"aws:s3/rule:Rule", ruleDocs, []⟩ }
  language := .schema
  requireDocs := true

theorem namesAlike_knottedBucket (ruleDocs others : Option DocOverride) :
    (knottedBucket ruleDocs).provider.NamesAlike (knottedBucket others).provider where
  name := rfl
  entityPrefix := rfl
  resources name := by
    simp only [knottedBucket, Dict.get?_insert]
    split
    · rfl
    · rfl
  dataSources _ := rfl

theorem exists_entityDocs_knottedBucket :
    ∃ parsed,
      (knottedBucket (some ruleOverride)).entityDocs ruledBucketFiles .resource "aws_bucket" =
        .ok parsed := by
  have heval : ((knottedBucket (some ruleOverride)).entityDocs ruledBucketFiles .resource
      "aws_bucket").toBool := by decide +kernel
  cases hdocs : (knottedBucket (some ruleOverride)).entityDocs ruledBucketFiles .resource
      "aws_bucket" with
  | error cause => simp [hdocs, Except.toBool] at heval
  | ok parsed => exact ⟨parsed, rfl⟩

end DocSource

end ProviderDocs
