import Mathlib.Data.List.Forall2
import ProviderDocs.DocSource
import ProviderDocs.Proofs.Error
import ProviderDocs.Proofs.Markdown.Elision

/-!
# What is lost in the documentation of an entity

The documentation of an entity adds up what was counted in its own document and in those that are
laid over it, but its flag is that of its own document alone. So its counters may tell of a loss
where the flag does not: in an overlaid document, or in prose that is dropped beside its examples.
-/

namespace ProviderDocs

namespace DocSource

open Markdown

section Overlay

variable {source : DocSource} {files : FileTree} {kind : EntityKind} {name : String}
  {mapping : Option EntityMapping} {parsed later : ParsedDoc} {isFound : Bool}

/-- The entities whose documentation is laid over that of an entity, in order. -/
def overlayNames (mapping : Option EntityMapping) : List String :=
  match mapping.bind (·.docs) with
  | some docs =>
    [docs.attributesFrom, docs.attributesFromArguments, docs.argumentsFrom].flatMap (·.toList)
  | none => []

/-- What is read from the documents of some entities without their mappings. -/
def Reads (source : DocSource) (files : FileTree) (kind : EntityKind) (names : List String)
    (read : List ParsedDoc) : Prop :=
  List.Forall₂
    (fun name docs ↦ ∃ isFound, source.ownDocs files kind name none = .ok (docs, isFound))
    names read

/-- Documents are read and laid over another one: their counts are added, and its flag stays. -/
structure LaysOver (source : DocSource) (files : FileTree) (kind : EntityKind)
    (names : List String) (parsed later : ParsedDoc) (read : List ParsedDoc) : Prop where
  reads : source.Reads files kind names read
  elided : later.elided = parsed.elided
  stats : later.stats = (read.map (·.stats)).foldl Stats.merge parsed.stats

theorem LaysOver.trans {names more : List String} {last : ParsedDoc} {read others : List ParsedDoc}
    (h : source.LaysOver files kind names parsed later read)
    (hmore : source.LaysOver files kind more later last others) :
    source.LaysOver files kind (names ++ more) parsed last (read ++ others) where
  reads := List.rel_append h.reads hmore.reads
  elided := hmore.elided.trans h.elided
  stats := by rw [hmore.stats, h.stats, List.map_append, List.foldl_append]

theorem exists_laysOver_of_overlay {other : Option String} {lay : EntityDoc → EntityDoc → EntityDoc}
    (h : source.overlay files kind other lay parsed = .ok later) :
    ∃ read, source.LaysOver files kind other.toList parsed later read := by
  unfold overlay at h
  cases other with
  | none =>
    cases h
    exact ⟨[], .nil, rfl, rfl⟩
  | some name =>
    obtain ⟨⟨docs, isFound⟩, hdocs, hlater⟩ := bind_eq_ok_iff.mp h
    cases hlater
    exact ⟨[docs], .cons ⟨isFound, hdocs⟩ .nil, rfl, rfl⟩

/-- Only where the own document is found are others laid over it. -/
theorem exists_laysOver_of_entityDocs (h : source.entityDocs files kind name = .ok parsed) :
    ∃ own isFound read,
      source.ownDocs files kind name (source.provider.entity? kind name) = .ok (own, isFound) ∧
        source.LaysOver files kind
          (if isFound then overlayNames (source.provider.entity? kind name) else []) own parsed
          read := by
  obtain ⟨⟨own, isFound⟩, hown, hparsed⟩ := bind_eq_ok_iff.mp h
  refine ⟨own, isFound, ?_⟩
  cases isFound with
  | false =>
    cases hparsed
    exact ⟨[], hown, .nil, rfl, rfl⟩
  | true =>
    unfold overlayNames
    cases hdocs : (source.provider.entity? kind name).bind (·.docs) with
    | none =>
      simp only [hdocs] at hparsed
      cases hparsed
      exact ⟨[], hown, .nil, rfl, rfl⟩
    | some docs =>
      simp only [hdocs] at hparsed
      obtain ⟨first, hfirst, hparsed⟩ := bind_eq_ok_iff.mp hparsed
      obtain ⟨second, hsecond, hlast⟩ := bind_eq_ok_iff.mp hparsed
      obtain ⟨read, hread⟩ := exists_laysOver_of_overlay hfirst
      obtain ⟨more, hmore⟩ := exists_laysOver_of_overlay hsecond
      obtain ⟨rest, hrest⟩ := exists_laysOver_of_overlay hlast
      refine ⟨read ++ (more ++ rest), hown, ?_⟩
      simpa using hread.trans (hmore.trans hrest)

end Overlay

/-! ## The flag and the counters -/

/-- The flag stands for what the entity's own document loses whole. -/
theorem elided_ownDocs_iff {source : DocSource} {files : FileTree} {kind : EntityKind}
    {name : String} {mapping : Option EntityMapping} {own : ParsedDoc} {isFound : Bool}
    (h : source.ownDocs files kind name mapping = .ok (own, isFound)) :
    own.elided = true ↔ own.stats.CountsLoss := by
  obtain ⟨found, -, hown⟩ := bind_eq_ok_iff.mp h
  cases found with
  | some document =>
    cases hown
    exact elided_parse_iff_countsLoss ..
  | none =>
    dsimp only at hown
    split at hown
    · cases hown
    · cases hown
      decide

/--
The flag of a parsed document stands for the texts that are lost whole, and the counters tell
besides of prose that is dropped beside its examples. Of an entity's documentation the flag is that
of its own document, while the counters tell of the documents that are laid over it as well.
-/
theorem countsElision_iff_elided_or (source : DocSource) (mapping : Option EntityMapping)
    (markdown : String) (files : FileTree) (kind : EntityKind) (name : String) :
    (((parse source.provider source.language mapping markdown).elided = true ↔
        (parse source.provider source.language mapping markdown).stats.CountsLoss) ∧
      ((parse source.provider source.language mapping markdown).stats.CountsElision ↔
        (parse source.provider source.language mapping markdown).elided = true ∨
          (parse source.provider source.language mapping markdown).stats.elidedProse ≠ 0)) ∧
    ∀ parsed, source.entityDocs files kind name = .ok parsed →
      ∃ own isFound read,
        source.ownDocs files kind name (source.provider.entity? kind name) = .ok (own, isFound) ∧
        source.LaysOver files kind
          (if isFound then overlayNames (source.provider.entity? kind name) else []) own parsed
          read ∧
        (parsed.elided = true ↔ own.stats.CountsLoss) ∧
        (parsed.stats.CountsElision ↔
          parsed.elided = true ∨ own.stats.elidedProse ≠ 0 ∨
            ∃ other ∈ read, other.stats.CountsElision) := by
  refine ⟨?_, fun parsed h ↦ ?_⟩
  · have hloss := elided_parse_iff_countsLoss source.provider source.language mapping markdown
    rw [Stats.countsElision_iff_countsLoss_or]
    exact ⟨hloss, or_congr_left hloss.symm⟩
  · obtain ⟨own, isFound, read, hown, hlays⟩ := exists_laysOver_of_entityDocs h
    have hloss : parsed.elided = true ↔ own.stats.CountsLoss := by
      rw [hlays.elided]
      exact elided_ownDocs_iff hown
    refine ⟨own, isFound, read, hown, hlays, hloss, ?_⟩
    rw [hlays.stats, Stats.countsElision_foldl_merge, Stats.countsElision_iff_countsLoss_or, hloss,
      or_assoc]
    simp

/-! ## A loss that the flag does not tell of -/

/-- A bucket takes over the attributes of a rule. -/
def ruledBucket : DocSource where
  repository := "/aws"
  provider :=
    { Provider.empty with
      name := "aws"
      gitHost := Provider.defaultHost
      resources := Dict.empty.insert "aws_bucket"
        ⟨"aws:s3/bucket:Bucket", some ⟨none, none, none, some "aws_rule", none, none⟩, []⟩ }
  language := .schema
  requireDocs := false

/-- The document of the rule has an attribute whose text is lost. -/
def ruledBucketFiles : FileTree :=
  (FileTree.empty.place ["aws", "docs", "resources", "bucket.md"]
    (.file "# Bucket\nStores objects.\n".toUTF8 false)).place
    ["aws", "docs", "resources", "rule.md"]
    (.file "# Rule\n## Attributes Reference\n* `id` - Set by Terraform.\n".toUTF8 false)

theorem exists_entityDocs_ruledBucket :
    ∃ parsed, ruledBucket.entityDocs ruledBucketFiles .resource "aws_bucket" = .ok parsed ∧
      parsed.elided = false ∧ parsed.stats.CountsElision := by
  have heval : (ruledBucket.entityDocs ruledBucketFiles .resource "aws_bucket").toOption.any
      fun parsed ↦ !parsed.elided && decide parsed.stats.CountsElision := by decide +kernel
  cases hdocs : ruledBucket.entityDocs ruledBucketFiles .resource "aws_bucket" with
  | error cause => simp [hdocs, Except.toOption] at heval
  | ok parsed => simpa [hdocs, Except.toOption] using heval

theorem countsElision_iff_elided_or_ruledBucket :
    ∃ (parsed own : ParsedDoc) (read : List ParsedDoc),
      ruledBucket.entityDocs ruledBucketFiles .resource "aws_bucket" = .ok parsed ∧
      parsed.elided = false ∧ ¬ own.stats.CountsLoss ∧
      (own.stats.elidedProse ≠ 0 ∨ ∃ other ∈ read, other.stats.CountsElision) := by
  obtain ⟨parsed, hdocs, hkept, hlost⟩ := exists_entityDocs_ruledBucket
  obtain ⟨own, isFound, read, -, -, hloss, helision⟩ :=
    (countsElision_iff_elided_or ruledBucket none "" ruledBucketFiles .resource "aws_bucket").2 _
      hdocs
  refine ⟨parsed, own, read, hdocs, hkept, ?_, ?_⟩
  · rw [← hloss, hkept]
    exact Bool.false_ne_true
  · exact (helision.mp hlost).resolve_left (by rw [hkept]; exact Bool.false_ne_true)

/-- The flag does not tell of all that the counters tell of. -/
theorem not_elided_iff_countsElision :
    ¬ ∀ (source : DocSource) files kind name parsed,
      source.entityDocs files kind name = .ok parsed →
      (parsed.elided = true ↔ parsed.stats.CountsElision) := by
  intro hflag
  obtain ⟨parsed, hdocs, hkept, hlost⟩ := exists_entityDocs_ruledBucket
  have hset := (hflag _ _ _ _ _ hdocs).mpr hlost
  exact Bool.false_ne_true (hkept.symm.trans hset)

end DocSource

end ProviderDocs
