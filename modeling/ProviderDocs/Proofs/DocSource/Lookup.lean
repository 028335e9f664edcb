import ProviderDocs.Proofs.DocSource.Elision
import ProviderDocs.Proofs.Markdown.NamesAlike
import ProviderDocs.Proofs.Stats

/-!
# Documents that are looked up

The documentation of an entity takes over what is said of up to three others. Each of these is
looked up as if it had no mapping, so it takes over nothing in its turn, whatever the mappings say
of one another. A run therefore looks up four documents at most, one after the other, and stops at
the first one that it cannot do without.
-/

namespace ProviderDocs

namespace DocSource

open Markdown

/-! ## One document -/

/-- An entity whose document is looked up, with the mapping that is heeded. -/
structure Lookup where
  name : String
  mapping : Option EntityMapping

section Lookup

variable (source : DocSource) (files : FileTree) (kind : EntityKind) (lookup : Lookup)

/-- No markdown is given in place, and no file that may hold the document is there. -/
def IsMissing : Prop :=
  inlineMarkdown? lookup.mapping = none ∧
    ∀ file ∈ fileNames source.provider lookup.name lookup.mapping,
      files.isFile (Path.join (source.directory files kind) file) = false

/-- No markdown is given in place, and the first file that is there cannot be read. -/
def IsUnreadable : Prop :=
  inlineMarkdown? lookup.mapping = none ∧
    ∃ file cause,
      ((fileNames source.provider lookup.name lookup.mapping).find? fun file ↦
          files.isFile (Path.join (source.directory files kind) file)) = some file ∧
        files.readText (Path.join (source.directory files kind) file) = .error cause

variable {source files kind lookup}

theorem find_eq_ok_none_iff :
    source.find files kind lookup.name lookup.mapping = .ok none ↔
      source.IsMissing files kind lookup := by
  unfold find IsMissing
  cases inlineMarkdown? lookup.mapping with
  | some markdown => simp
  | none =>
    simp only [true_and]
    split
    case h_1 hfile => simpa using hfile
    case h_2 file hfile =>
      have hsome : ¬ ∀ file ∈ fileNames source.provider lookup.name lookup.mapping,
          files.isFile (Path.join (source.directory files kind) file) = false := by
        intro hnone
        have htrue := List.find?_some hfile
        rw [hnone file (List.mem_of_find?_eq_some hfile)] at htrue
        cases htrue
      refine iff_of_false ?_ hsome
      split
      · simp
      · simp

theorem exists_find_eq_error_iff :
    (∃ error, source.find files kind lookup.name lookup.mapping = .error error) ↔
      source.IsUnreadable files kind lookup := by
  unfold find IsUnreadable
  cases inlineMarkdown? lookup.mapping with
  | some markdown => simp
  | none =>
    simp only [true_and]
    split
    case h_1 hfile => simp [hfile]
    case h_2 file hfile =>
      simp only [hfile, Option.some.injEq]
      split
      case h_1 htext => simp [htext]
      case h_2 cause htext => simp [htext]

theorem not_found_iff :
    (∀ document, source.find files kind lookup.name lookup.mapping ≠ .ok (some document)) ↔
      source.IsMissing files kind lookup ∨ source.IsUnreadable files kind lookup := by
  rw [← find_eq_ok_none_iff, ← exists_find_eq_error_iff]
  cases source.find files kind lookup.name lookup.mapping with
  | error error => exact iff_of_true nofun (.inr ⟨error, rfl⟩)
  | ok document =>
    cases document with
    | none => exact iff_of_true nofun (.inl rfl)
    | some document => exact iff_of_false (fun h ↦ h document rfl) (by simp)

end Lookup

/-! ## What is taken over -/

/-- Something that the documentation of an entity takes over from that of another one. -/
structure Overlay where
  name : String
  lay : EntityDoc → EntityDoc → EntityDoc

/-- What a mapping takes over: attributes, arguments as attributes, and arguments, in this order. -/
def overlays (mapping : Option EntityMapping) : List Overlay :=
  match mapping.bind (·.docs) with
  | some docs =>
    [(docs.attributesFrom, EntityDoc.includeAttributes),
      (docs.attributesFromArguments, EntityDoc.includeArgumentsAsAttributes),
      (docs.argumentsFrom, EntityDoc.includeArguments)].filterMap fun entry ↦
        entry.1.map (⟨·, entry.2⟩)
  | none => []

theorem map_name_overlays (mapping : Option EntityMapping) :
    (overlays mapping).map (·.name) = overlayNames mapping := by
  unfold overlays overlayNames
  cases mapping.bind (·.docs) with
  | none => rfl
  | some docs =>
    simp only [List.filterMap_eq_flatMap_toList, List.flatMap_cons, List.flatMap_nil,
      List.map_append, List.map_nil, Option.toList_map, List.map_map, Function.comp_def,
      List.map_id']

theorem length_overlays_le (mapping : Option EntityMapping) : (overlays mapping).length ≤ 3 := by
  unfold overlays
  split
  · exact List.length_filterMap_le _ _
  · exact Nat.zero_le 3

/-- The documents an entity may need: its own one, and those of others without their mappings. -/
def lookups (name : String) (mapping : Option EntityMapping) : List Lookup :=
  ⟨name, mapping⟩ :: (overlays mapping).map fun overlay ↦ ⟨overlay.name, none⟩

theorem length_lookups_le (name : String) (mapping : Option EntityMapping) :
    (lookups name mapping).length ≤ 4 := by
  rw [lookups, List.length_cons, List.length_map]
  exact Nat.succ_le_succ (length_overlays_le mapping)

/-- A document with what it takes over from another one. -/
def Overlay.over (overlay : Overlay) (parsed other : ParsedDoc) : ParsedDoc :=
  { parsed with
    doc := overlay.lay parsed.doc other.doc
    stats := parsed.stats.merge other.stats }

/-- A document has taken over something from some others, one after the other. -/
structure HasTakenOver (own : ParsedDoc) (overlays : List Overlay) (read : List ParsedDoc)
    (later : ParsedDoc) : Prop where
  doc : later.doc =
    (overlays.zip read).foldl (fun doc entry ↦ entry.1.lay doc entry.2.doc) own.doc
  stats : later.stats = Stats.sum (own.stats :: read.map (·.stats))
  elided : later.elided = own.elided

theorem hasTakenOver_nil_iff {own later : ParsedDoc} :
    HasTakenOver own [] [] later ↔ later = own := by
  constructor
  · rintro ⟨hdoc, hstats, helided⟩
    rw [Stats.sum_cons] at hstats
    exact congr (congr (congrArg ParsedDoc.mk hdoc) hstats) helided
  · rintro rfl
    refine ⟨rfl, ?_, rfl⟩
    rw [Stats.sum_cons]
    rfl

theorem hasTakenOver_cons_iff {own later other : ParsedDoc} {overlay : Overlay}
    {overlays : List Overlay} {read : List ParsedDoc} :
    HasTakenOver own (overlay :: overlays) (other :: read) later ↔
      HasTakenOver (overlay.over own other) overlays read later := by
  have hsum : Stats.sum (own.stats :: (other :: read).map (·.stats)) =
      Stats.sum ((overlay.over own other).stats :: read.map (·.stats)) := by
    rw [Stats.sum_cons, Stats.sum_cons]
    rfl
  constructor
  · rintro ⟨hdoc, hstats, helided⟩
    exact ⟨hdoc, hstats.trans hsum, helided⟩
  · rintro ⟨hdoc, hstats, helided⟩
    exact ⟨hdoc, hstats.trans hsum.symm, helided⟩

section Documentation

variable (source : DocSource) (files : FileTree) (kind : EntityKind)

/-- Takes over what the document of another entity says, which is read without its mapping. -/
def layOver (parsed : ParsedDoc) (overlay : Overlay) : Except Error ParsedDoc := do
  let (other, _) ← source.ownDocs files kind overlay.name none
  .ok (overlay.over parsed other)

theorem overlay_eq_foldlM (other : Option String) (lay : EntityDoc → EntityDoc → EntityDoc)
    (parsed : ParsedDoc) :
    source.overlay files kind other lay parsed =
      (other.map (Overlay.mk · lay)).toList.foldlM (source.layOver files kind) parsed := by
  cases other with
  | none => rfl
  | some name =>
    simp only [Option.map_some, Option.toList_some, List.foldlM_cons, List.foldlM_nil, bind_pure]
    rfl

/-- The documentation of an entity with a mapping, whichever it is. -/
def docsWith (name : String) (mapping : Option EntityMapping) : Except Error ParsedDoc := do
  let (own, isFound) ← source.ownDocs files kind name mapping
  if isFound then (overlays mapping).foldlM (source.layOver files kind) own else .ok own

theorem entityDocs_eq_docsWith (name : String) :
    source.entityDocs files kind name =
      source.docsWith files kind name (source.provider.entity? kind name) := by
  dsimp only [entityDocs, docsWith]
  cases source.ownDocs files kind name (source.provider.entity? kind name) with
  | error error => rfl
  | ok result =>
    obtain ⟨own, isFound⟩ := result
    cases isFound with
    | false => rfl
    | true =>
      unfold overlays
      cases hdocs : (source.provider.entity? kind name).bind (·.docs) with
      | none => rfl
      | some docs =>
        simp only [overlay_eq_foldlM, List.filterMap_eq_flatMap_toList, List.flatMap_cons,
          List.flatMap_nil, List.foldlM_append, List.append_nil]
        rfl

end Documentation

/-! ## Results -/

section Results

variable {source : DocSource} {files : FileTree} {kind : EntityKind} {name : String}
  {mapping : Option EntityMapping}

theorem ownDocs_of_found {markdown file : String}
    (h : source.find files kind name mapping = .ok (some (markdown, file))) :
    source.ownDocs files kind name mapping =
      .ok (parse source.provider source.language mapping markdown, true) := by
  rw [ownDocs, h]
  rfl

theorem docsWith_of_found {markdown file : String}
    (h : source.find files kind name mapping = .ok (some (markdown, file))) :
    source.docsWith files kind name mapping =
      (overlays mapping).foldlM (source.layOver files kind)
        (parse source.provider source.language mapping markdown) := by
  rw [docsWith, ownDocs_of_found h]
  rfl

theorem docsWith_of_not_found
    (h : ∀ document, source.find files kind name mapping ≠ .ok (some document)) :
    source.docsWith files kind name mapping =
      (source.ownDocs files kind name mapping).map (·.1) := by
  unfold docsWith ownDocs
  cases hfind : source.find files kind name mapping with
  | error error => rfl
  | ok document =>
    cases document with
    | some document => exact absurd hfind (h document)
    | none => cases source.requireDocs <;> rfl

theorem foldlM_layOver_cons_of_error {overlay : Overlay} {error : Error}
    (h : source.ownDocs files kind overlay.name none = .error error) (rest : List Overlay)
    (parsed : ParsedDoc) :
    (overlay :: rest).foldlM (source.layOver files kind) parsed = .error error := by
  rw [List.foldlM_cons, layOver, h]
  rfl

theorem foldlM_layOver_cons_of_ok {overlay : Overlay} {other : ParsedDoc} {isFound : Bool}
    (h : source.ownDocs files kind overlay.name none = .ok (other, isFound)) (rest : List Overlay)
    (parsed : ParsedDoc) :
    (overlay :: rest).foldlM (source.layOver files kind) parsed =
      rest.foldlM (source.layOver files kind) (overlay.over parsed other) := by
  rw [List.foldlM_cons, layOver, h]
  rfl

/-- Taking over succeeds where all documents are read, and gives the one that takes over from
them. -/
theorem foldlM_layOver_eq_ok_iff {overlays : List Overlay} {own later : ParsedDoc} :
    overlays.foldlM (source.layOver files kind) own = .ok later ↔
      ∃ read, source.Reads files kind (overlays.map (·.name)) read ∧
        HasTakenOver own overlays read later := by
  induction overlays generalizing own with
  | nil =>
    have hpure : [].foldlM (source.layOver files kind) own = .ok later ↔ later = own :=
      ⟨fun h ↦ (Except.ok.inj h).symm, fun h ↦ congrArg Except.ok h.symm⟩
    rw [hpure, ← hasTakenOver_nil_iff]
    constructor
    · exact fun h ↦ ⟨[], .nil, h⟩
    · rintro ⟨_, ⟨⟩, h⟩
      exact h
  | cons overlay rest ih =>
    constructor
    · intro h
      cases hown : source.ownDocs files kind overlay.name none with
      | error error =>
        rw [foldlM_layOver_cons_of_error hown] at h
        cases h
      | ok found =>
        rw [foldlM_layOver_cons_of_ok hown, ih] at h
        obtain ⟨read, hreads, htaken⟩ := h
        exact ⟨found.1 :: read, .cons ⟨found.2, hown⟩ hreads, hasTakenOver_cons_iff.mpr htaken⟩
    · rintro ⟨_, _ | ⟨⟨isFound, hown⟩, hreads⟩, htaken⟩
      rw [foldlM_layOver_cons_of_ok hown, ih]
      exact ⟨_, hreads, hasTakenOver_cons_iff.mp htaken⟩

theorem exists_foldlM_layOver_eq_error_iff {overlays : List Overlay} {own : ParsedDoc} :
    (∃ error, overlays.foldlM (source.layOver files kind) own = .error error) ↔
      ∃ overlay ∈ overlays, ∃ error,
        source.ownDocs files kind overlay.name none = .error error := by
  induction overlays generalizing own with
  | nil => exact iff_of_false (fun ⟨_, h⟩ ↦ nomatch h) (fun ⟨_, h, _⟩ ↦ nomatch h)
  | cons overlay rest ih =>
    rw [List.exists_mem_cons_iff]
    cases hown : source.ownDocs files kind overlay.name none with
    | error error =>
      rw [foldlM_layOver_cons_of_error hown]
      exact iff_of_true ⟨error, rfl⟩ (.inl ⟨error, rfl⟩)
    | ok found =>
      rw [foldlM_layOver_cons_of_ok hown, ih, or_iff_right]
      rintro ⟨_, ⟨⟩⟩

theorem exists_ownDocs_eq_error_iff (hrequired : source.requireDocs = true) :
    (∃ error, source.ownDocs files kind name mapping = .error error) ↔
      ∀ document, source.find files kind name mapping ≠ .ok (some document) := by
  unfold ownDocs
  cases source.find files kind name mapping with
  | error error => exact iff_of_true ⟨error, rfl⟩ nofun
  | ok document =>
    cases document with
    | none =>
      rw [hrequired]
      exact iff_of_true ⟨_, rfl⟩ nofun
    | some document => exact iff_of_false nofun (fun h ↦ h document rfl)

/-- Where documents are required, one that is missing is as bad as one that cannot be read. -/
theorem exists_docsWith_eq_error_iff (hrequired : source.requireDocs = true) (name : String)
    (mapping : Option EntityMapping) :
    (∃ error, source.docsWith files kind name mapping = .error error) ↔
      ∃ lookup ∈ lookups name mapping,
        source.IsMissing files kind lookup ∨ source.IsUnreadable files kind lookup := by
  simp only [← not_found_iff, ← exists_ownDocs_eq_error_iff hrequired]
  rw [lookups, List.exists_mem_cons_iff]
  by_cases hfound : ∃ document, source.find files kind name mapping = .ok (some document)
  · obtain ⟨⟨markdown, file⟩, hfind⟩ := hfound
    have hown : ¬ ∃ error, source.ownDocs files kind name mapping = .error error := by
      rw [ownDocs_of_found hfind]
      rintro ⟨_, ⟨⟩⟩
    rw [docsWith_of_found hfind, exists_foldlM_layOver_eq_error_iff, or_iff_right hown]
    simp only [List.mem_map, exists_exists_and_eq_and]
  · have hnone := not_exists.mp hfound
    obtain ⟨error, herror⟩ := (exists_ownDocs_eq_error_iff hrequired).mpr hnone
    rw [docsWith_of_not_found hnone, herror]
    exact iff_of_true ⟨error, rfl⟩ (.inl ⟨error, rfl⟩)

end Results

/-! ## Mappings of other entities -/

section Mappings

variable {source : DocSource} {provider : Provider} (h : source.provider.NamesAlike provider)
  (files : FileTree) (kind : EntityKind) (name : String)

include h

theorem ownDocs_congr (mapping : Option EntityMapping) :
    { source with provider := provider }.ownDocs files kind name mapping =
      source.ownDocs files kind name mapping := by
  have hfind : { source with provider := provider }.find files kind name mapping =
      source.find files kind name mapping := by
    have hnames : fileNames provider name mapping = fileNames source.provider name mapping := by
      rw [fileNames, fileNames, h.entityPrefix]
    have hdirectory : { source with provider := provider }.directory files kind =
        source.directory files kind := rfl
    simp only [find, hnames, hdirectory]
  unfold ownDocs
  rw [hfind]
  congr 1
  funext document
  cases document with
  | none => rfl
  | some document =>
    have hparse := Markdown.parse_congr h source.language mapping document.1
    exact congrArg (fun docs ↦ Except.ok (docs, true)) hparse

theorem entityDocs_congr (hown : provider.entity? kind name = source.provider.entity? kind name) :
    { source with provider := provider }.entityDocs files kind name =
      source.entityDocs files kind name := by
  have hlay : { source with provider := provider }.layOver files kind =
      source.layOver files kind := by
    funext parsed overlay
    rw [layOver, layOver, ownDocs_congr h]
  rw [entityDocs_eq_docsWith, entityDocs_eq_docsWith, docsWith, docsWith, hown, hlay,
    ownDocs_congr h]

end Mappings

end DocSource

end ProviderDocs
