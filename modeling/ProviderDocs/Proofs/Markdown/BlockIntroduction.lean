import Mathlib.Data.List.Basic
import ProviderDocs.Proofs.Markdown.ArgumentScan
import ProviderDocs.Proofs.Text.Lines

/-!
# Introductions of nested blocks

The line "The `website` object supports the following:" introduces the nested block of an argument:
the bullets below it are recorded as fields of that argument, and no argument that is not a copy
changes. The name has to be one of small letters and underscores. A bullet may also have digits in
its name, but a line with such a name introduces nothing, so the bullets below it are read as if it
were not there.
-/

namespace ProviderDocs

/-! ## Small forms of small letters -/

/-- Small letters and underscores stand in no table of capitals. -/
theorem Text.lower_of_isSmallName {c : Char} (h : Markdown.isSmallName c = true) :
    lower c = [c] := by
  have htables : ∀ code ∈ 0x5F :: List.range' 0x61 26,
      lowerSequences.lookup code = none ∧ lowerRuns.find? (·.run.contains code) = none := by
    decide +kernel
  have hcode : c.toNat ∈ 0x5F :: List.range' 0x61 26 := by
    simp only [Markdown.isSmallName, Markdown.isSmallLetter, Bool.or_eq_true, Bool.and_eq_true,
      decide_eq_true_eq] at h
    rcases h with ⟨hlow, hhigh⟩ | rfl
    · have hlow : 0x61 ≤ c.toNat := UInt32.le_iff_toNat_le.mp hlow
      have hhigh : c.toNat ≤ 0x7A := UInt32.le_iff_toNat_le.mp hhigh
      refine List.mem_cons_of_mem _ ?_
      rw [List.mem_range'_1]
      omega
    · exact List.mem_cons_self
  obtain ⟨hsequence, hrun⟩ := htables _ hcode
  simp only [lower, mapCase, hsequence, mapRuns?, hrun, Option.map_none, Option.getD_none]

namespace Markdown

/-! ## Names between backticks -/

section QuotedName

variable (inName : Char → Bool) (accept : List Char → Bool)

theorem quotedName?_append {front : List Char} (h : '`' ∉ front) (rest : List Char) :
    quotedName? inName accept (front ++ rest) = quotedName? inName accept rest := by
  induction front with
  | nil => rfl
  | cons c front ih =>
    obtain ⟨hc, hfront⟩ := List.ne_and_not_mem_of_not_mem_cons h
    rw [List.cons_append, quotedName?, if_neg (Ne.symm hc), Option.none_or, ih hfront]

theorem quotedName?_eq_none {text : List Char} (h : '`' ∉ text) :
    quotedName? inName accept text = none := by
  have hskip := quotedName?_append inName accept h []
  rwa [List.append_nil] at hskip

variable {inName accept}

theorem quotedName?_of_class {name rest : List Char} (hne : name ≠ [])
    (hname : ∀ c ∈ name, inName c = true) (htick : inName '`' = false)
    (haccept : accept (Text.firstLine rest) = true) :
    quotedName? inName accept ('`' :: (name ++ '`' :: rest)) = some name := by
  obtain ⟨c, tail, rfl⟩ := List.exists_cons_of_ne_nil hne
  rw [quotedName?]
  simp only [if_true, Text.span_append hname htick, haccept, Option.some_or]

/-- A backtick is passed over when the name behind it does not go up to the next one. -/
theorem quotedName?_tick {text : List Char} (h : ∀ c ∈ (text.dropWhile inName).head?, c ≠ '`') :
    quotedName? inName accept ('`' :: text) = quotedName? inName accept text := by
  rw [quotedName?]
  simp only [if_true, Text.span]
  split
  · exact Option.none_or
  · next hspan =>
    rw [(Prod.mk.inj hspan).2] at h
    exact absurd rfl (h '`' rfl)
  · exact Option.none_or

/-- What is no name as a whole is none between backticks. -/
theorem quotedName?_eq_none_of_foreign {name rest : List Char}
    (hforeign : ∃ c ∈ name, inName c = false) (hname : '`' ∉ name) (hrest : '`' ∉ rest) :
    quotedName? inName accept ('`' :: (name ++ '`' :: rest)) = none := by
  have hclosing : ∀ c ∈ ((name ++ '`' :: rest).dropWhile inName).head?, c ≠ '`' := by
    obtain ⟨front, back, rfl, hfront, hback⟩ := Text.exists_eq_append_of_class inName name
    obtain ⟨c, hc, hout⟩ := hforeign
    cases back with
    | nil =>
      rw [List.append_nil] at hc
      exact absurd (hfront c hc) (by rw [hout]; decide)
    | cons b back =>
      rw [List.append_assoc, List.dropWhile_append_of_pos hfront, List.cons_append,
        List.dropWhile_cons_of_neg (by rw [hback b rfl]; decide)]
      rintro c ⟨⟩ rfl
      exact hname (List.mem_append_right _ List.mem_cons_self)
  have hend : ∀ c ∈ (rest.dropWhile inName).head?, c ≠ '`' := by
    rintro c hc rfl
    exact hrest ((List.dropWhile_sublist inName).subset (List.mem_of_mem_head? hc))
  rw [quotedName?_tick hclosing, quotedName?_append inName accept hname, quotedName?_tick hend,
    quotedName?_eq_none inName accept hrest]

end QuotedName

theorem headingName?_eq_none {text : List Char} (h : '#' ∉ text) : headingName? text = none := by
  induction text with
  | nil => rfl
  | cons c rest ih =>
    obtain ⟨hc, hrest⟩ := List.ne_and_not_mem_of_not_mem_cons h
    have hmarks : Text.after? "## ".toList (c :: rest) = none := if_neg hc
    rw [headingName?, hmarks, ih hrest]
    rfl

/-! ## Introductions -/

/-- The line that introduces the nested block of an argument. -/
def blockIntroduction (name : String) : String :=
  "The `" ++ name ++ "` object supports the following:"

/-- A name of a bullet, in small letters. -/
structure IsFieldName (name : String) : Prop where
  ne_empty : name ≠ ""
  chars : ∀ c ∈ name.toList, isSmallName c = true ∨ c.isDigit = true

instance (name : String) : Decidable (IsFieldName name) :=
  decidable_of_iff (name ≠ "" ∧ name.toList.all (fun c ↦ isSmallName c || c.isDigit) = true)
    ⟨fun h ↦ ⟨h.1, by simpa using h.2⟩, fun h ↦ ⟨h.ne_empty, by simpa using h.chars⟩⟩

/-- A name without digits. -/
def IsUnnumbered (name : String) : Prop := ∀ c ∈ name.toList, c.isDigit = false

instance (name : String) : Decidable (IsUnnumbered name) :=
  decidable_of_iff (name.toList.all (!·.isDigit) = true) (by simp [IsUnnumbered])

theorem isSmallPath_of_isDigit {c : Char} (h : c.isDigit = true) : isSmallPath c = false := by
  obtain ⟨hlow, hhigh⟩ := Bool.and_eq_true_iff.mp h
  have hhigh : c.toNat ≤ 0x39 := UInt32.le_iff_toNat_le.mp (of_decide_eq_true hhigh)
  have hlow : 0x30 ≤ c.toNat := UInt32.le_iff_toNat_le.mp (of_decide_eq_true hlow)
  have hletter : ¬ 'a' ≤ c := fun hle ↦ by
    have hle : 0x61 ≤ c.toNat := UInt32.le_iff_toNat_le.mp hle
    omega
  have hunderscore : c ≠ '_' := by
    rintro rfl
    exact absurd hhigh (by decide)
  have hdot : c ≠ '.' := by
    rintro rfl
    exact absurd hlow (by decide)
  simp [isSmallPath, isSmallName, isSmallLetter, hletter, hunderscore, hdot]

theorem isSmallName_of_isDigit {c : Char} (h : c.isDigit = true) : isSmallName c = false :=
  (Bool.or_eq_false_iff.mp (isSmallPath_of_isDigit h)).1

theorem toList_blockIntroduction (name : String) :
    (blockIntroduction name).toList =
      "The ".toList ++ '`' :: (name.toList ++ '`' :: " object supports the following:".toList) := by
  simp [blockIntroduction]

/-- An introduction is neither a bullet nor blank. -/
theorem argumentBullet?_blockIntroduction (name : String) :
    argumentBullet? (blockIntroduction name).toList = none := by
  rw [toList_blockIntroduction]
  rfl

theorem isBlankLine_blockIntroduction (name : String) :
    isBlankLine (blockIntroduction name) = false := by
  rw [blockIntroduction, isBlankLine_append, isBlankLine_append]
  rfl

namespace IsFieldName

variable {name : String} (h : IsFieldName name)

include h

theorem notMem {mark : Char} (hname : isSmallName mark = false) (hdigit : mark.isDigit = false) :
    mark ∉ name.toList := by
  intro hmem
  rcases h.chars mark hmem with hsmall | hnumber
  · exact Bool.false_ne_true (hname.symm.trans hsmall)
  · exact Bool.false_ne_true (hdigit.symm.trans hnumber)

theorem blockName?_of_isUnnumbered (hletters : IsUnnumbered name) :
    blockName? (blockIntroduction name) = some name := by
  have hsmall : ∀ c ∈ name.toList, isSmallName c = true := fun c hc ↦
    (h.chars c hc).resolve_right (by rw [hletters c hc]; decide)
  have hquoted : quotedName? isSmallName (Text.occursIn "following".toList)
      (blockIntroduction name).toList = some name.toList := by
    rw [toList_blockIntroduction, quotedName?_append _ _ (by decide)]
    exact quotedName?_of_class (mt String.toList_eq_nil_iff.mp h.ne_empty) hsmall rfl
      (by decide +kernel)
  have hlower : name.toList.flatMap Text.lower = name.toList := by
    rw [List.flatMap_congr fun c hc ↦ Text.lower_of_isSmallName (hsmall c hc),
      List.flatMap_singleton']
  rw [blockName?, introducedName?, hquoted, Option.some_or, Option.map_some, hlower,
    String.ofList_toList]

theorem blockName?_of_isDigit {digit : Char} (hmem : digit ∈ name.toList)
    (hdigit : digit.isDigit = true) : blockName? (blockIntroduction name) = none := by
  have hquoted {inName : Char → Bool} (accept : List Char → Bool) (hout : inName digit = false) :
      quotedName? inName accept (blockIntroduction name).toList = none := by
    rw [toList_blockIntroduction, quotedName?_append _ _ (by decide)]
    exact quotedName?_eq_none_of_foreign ⟨digit, hmem, hout⟩ (h.notMem (by decide) (by decide))
      (by decide)
  have hheading : headingName? (blockIntroduction name).toList = none := by
    have hmark : '#' ∉ name.toList := h.notMem (by decide) (by decide)
    refine headingName?_eq_none ?_
    rw [toList_blockIntroduction]
    simp [hmark]
  have hname := isSmallName_of_isDigit hdigit
  have hpath := isSmallPath_of_isDigit hdigit
  simp only [blockName?, introducedName?, hquoted _ hname, hquoted _ hpath, hheading,
    Option.none_or, Option.map_none]

end IsFieldName

/-! ## Bullets in a nested block -/

/-- The name and the description of a bullet. -/
def bulletField? (line : String) : Option (String × String) :=
  (argumentBullet? line.toList).map fun (name, description) ↦
    (String.ofList name, String.ofList description)

/-- What the bullets among the lines describe. -/
def bulletFields (lines : List String) : List (String × String) := lines.filterMap bulletField?

namespace ArgumentScan

theorem step_bullet_within {scan : ArgumentScan} {parent line : String} {field : String × String}
    (hparent : scan.parent = some parent) (hfield : bulletField? line = some field) :
    scan.step (Line.ofArguments line) =
      { scan with doc := addNested scan.doc parent field.1 field.2, last := some field.1 } := by
  obtain ⟨⟨name, description⟩, hbullet, rfl⟩ := Option.map_eq_some_iff.mp hfield
  rw [Line.ofArguments_of_bullet hbullet, step, ArgumentScan.bullet, hparent]

theorem doc_foldl_bullets_within {scan : ArgumentScan} {parent : String}
    (hparent : scan.parent = some parent) {bullets : List String}
    (hbullets : ∀ line ∈ bullets, (bulletField? line).isSome = true) :
    ((bullets.map Line.ofArguments).foldl step scan).doc =
      (bulletFields bullets).foldl (fun doc field ↦ addNested doc parent field.1 field.2)
        scan.doc := by
  induction bullets generalizing scan with
  | nil => rfl
  | cons line rest ih =>
    obtain ⟨hline, hrest⟩ := List.forall_mem_cons.mp hbullets
    obtain ⟨field, hfield⟩ := Option.isSome_iff_exists.mp hline
    rw [List.map_cons, List.foldl_cons, step_bullet_within hparent hfield, bulletFields,
      List.filterMap_cons_some hfield, List.foldl_cons]
    exact ih hparent hrest

/-- Of several fields with one name the last one stays. -/
theorem nestedText?_foldl_addNested (doc : EntityDoc) (parent other name : String)
    (fields : List (String × String)) :
    (fields.foldl (fun doc field ↦ addNested doc parent field.1 field.2) doc).nestedText? other
        name =
      if other = parent then ((Dict.ofList fields).get? name).or (doc.nestedText? parent name)
      else doc.nestedText? other name := by
  induction fields generalizing doc with
  | nil =>
    split
    case isTrue hother => rw [hother]; rfl
    case isFalse => rfl
  | cons field rest ih =>
    rw [List.foldl_cons, ih, nestedText?_addNested, nestedText?_addNested, Dict.get?_ofList,
      Dict.get?_ofList, List.findRev?_eq_find?_reverse, List.findRev?_eq_find?_reverse,
      List.reverse_cons, List.find?_append, List.find?_singleton]
    by_cases hother : other = parent
    · cases rest.reverse.find? (·.1 = name) with
      | some last => simp [hother]
      | none => by_cases hname : field.1 = name <;> simp [hother, hname, Ne.symm]
    · simp [hother]

theorem topLevelText?_foldl_addNested {doc : EntityDoc} {name text : String}
    (h : doc.topLevelText? name = some text) (parent : String) (fields : List (String × String)) :
    (fields.foldl (fun doc field ↦ addNested doc parent field.1 field.2) doc).topLevelText? name =
      some text := by
  induction fields generalizing doc with
  | nil => exact h
  | cons field rest ih => exact ih (topLevelText?_addNested h parent field.1 field.2)

/-- Outside of an item a blank line changes nothing. -/
theorem step_blank {scan : ArgumentScan} (hlast : scan.last = none) {blank : String}
    (hblank : isBlankLine blank = true) : scan.step (Line.ofArguments blank) = scan := by
  have hbullet : argumentBullet? blank.toList = none := by
    have hempty : Text.dropBlank blank.toList = [] := (Text.dropBlank_eq_nil_iff _).mpr hblank
    rw [argumentBullet?, bulletHead?, hempty]
    rfl
  obtain ⟨doc, stats, last, parent⟩ := scan
  obtain rfl : last = none := hlast
  rw [Line.ofArguments_of_blank hbullet hblank, step]

end ArgumentScan

/-! ## Recording a block -/

/-- The bullets are recorded as fields of the argument. The fields of other arguments stay, and so
does every argument that is not a copy. -/
structure RecordsBlock (doc after : EntityDoc) (name : String) (bullets : List String) : Prop where
  fields : ∀ field, after.nestedText? name field =
    ((Dict.ofList (bulletFields bullets)).get? field).or (doc.nestedText? name field)
  others : ∀ other field, other ≠ name → after.nestedText? other field = doc.nestedText? other field
  kept : ∀ argument text, doc.topLevelText? argument = some text →
    after.topLevelText? argument = some text

theorem recordsBlock_foldl_addNested (doc : EntityDoc) (name : String) (bullets : List String) :
    RecordsBlock doc ((bulletFields bullets).foldl
      (fun doc field ↦ ArgumentScan.addNested doc name field.1 field.2) doc) name bullets where
  fields field := by rw [ArgumentScan.nestedText?_foldl_addNested, if_pos rfl]
  others other field hother := by rw [ArgumentScan.nestedText?_foldl_addNested, if_neg hother]
  kept argument text htext := ArgumentScan.topLevelText?_foldl_addNested htext name _

section Scan

variable {name : String} (hname : IsFieldName name) (doc : EntityDoc) (stats : Stats)
  {blank : String} (hblank : isBlankLine blank = true)

include hname hblank

/-- The bullets below an introduction are recorded, when the name has no digits. -/
theorem recordsBlock_of_isUnnumbered (hletters : IsUnnumbered name) {bullets : List String}
    (hbullets : ∀ line ∈ bullets, (bulletField? line).isSome = true) :
    RecordsBlock doc
      (scanArguments doc stats none (blockIntroduction name :: blank :: bullets)).1 name
      bullets := by
  have hintro := Line.ofArguments_of_intro (argumentBullet?_blockIntroduction name)
    (isBlankLine_blockIntroduction name) (hname.blockName?_of_isUnnumbered hletters)
  have hscan : (scanArguments doc stats none (blockIntroduction name :: blank :: bullets)).1 =
      (bulletFields bullets).foldl
        (fun doc field ↦ ArgumentScan.addNested doc name field.1 field.2) doc := by
    rw [scanArguments, List.map_cons, List.map_cons, List.foldl_cons, List.foldl_cons, hintro,
      ArgumentScan.step_blank rfl hblank]
    exact ArgumentScan.doc_foldl_bullets_within rfl hbullets
  rw [hscan]
  exact recordsBlock_foldl_addNested doc name bullets

/-- A line with a digit in its name introduces nothing, whatever follows. -/
theorem scanArguments_of_not_isUnnumbered (hnumbered : ¬ IsUnnumbered name) (rest : List String) :
    scanArguments doc stats none (blockIntroduction name :: blank :: rest) =
      scanArguments doc stats none rest := by
  obtain ⟨digit, hmem, hdigit⟩ : ∃ c ∈ name.toList, c.isDigit = true := by
    simpa [IsUnnumbered] using hnumbered
  have htext := Line.ofArguments_of_text (argumentBullet?_blockIntroduction name)
    (isBlankLine_blockIntroduction name) (hname.blockName?_of_isDigit hmem hdigit)
  have hintro : ArgumentScan.step ⟨doc, stats, none, none⟩
      (Line.ofArguments (blockIntroduction name)) = ⟨doc, stats, none, none⟩ := by
    rw [htext]
    rfl
  rw [scanArguments, List.map_cons, List.map_cons, List.foldl_cons, List.foldl_cons, hintro,
    ArgumentScan.step_blank rfl hblank]
  rfl

end Scan

/-- The lines of a nested block are recorded under the name in its introduction, for every record
and all bullets, exactly when the name has no digits. With a digit in the name, the introduction is
as good as missing. -/
theorem recordsBlock_scanArguments_iff {name : String} (hname : IsFieldName name) :
    ((∀ doc stats blank bullets, isBlankLine blank = true →
        (∀ line ∈ bullets, (bulletField? line).isSome = true) →
          RecordsBlock doc
            (scanArguments doc stats none (blockIntroduction name :: blank :: bullets)).1 name
            bullets) ↔
      IsUnnumbered name) ∧
    (¬ IsUnnumbered name → ∀ doc stats blank rest, isBlankLine blank = true →
      scanArguments doc stats none (blockIntroduction name :: blank :: rest) =
        scanArguments doc stats none rest) := by
  have hmissing (hnumbered : ¬ IsUnnumbered name) (doc : EntityDoc) (stats : Stats)
      (blank : String) (rest : List String) (hblank : isBlankLine blank = true) :=
    scanArguments_of_not_isUnnumbered hname doc stats hblank hnumbered rest
  refine ⟨⟨fun hrecords ↦ ?_, fun hletters doc stats blank bullets hblank hbullets ↦ ?_⟩, hmissing⟩
  · -- Otherwise the bullet of a block would stand outside, and not among the fields of the name.
    refine Classical.byContradiction fun hnumbered ↦ ?_
    have hfield : bulletField? "* `enabled` - On." = some ("enabled", "On.") := by decide +kernel
    have hscan : (scanArguments .empty .zero none ["* `enabled` - On."]).1 =
        ArgumentScan.addTopLevel .empty "enabled" "On." := by decide +kernel
    have hempty : EntityDoc.empty.nestedText? name "enabled" = none := rfl
    have hblock := (hrecords .empty .zero "" ["* `enabled` - On."] rfl
      (List.forall_mem_singleton.mpr (by rw [hfield]; rfl))).fields "enabled"
    rw [hmissing hnumbered _ _ _ _ rfl, hscan, ArgumentScan.nestedText?_addTopLevel, hempty,
      bulletFields, List.filterMap_cons_some hfield] at hblock
    exact absurd hblock (by decide +kernel)
  · exact recordsBlock_of_isUnnumbered hname doc stats hblank hletters hbullets

theorem recordsBlock_scanArguments_iff_website :
    IsFieldName "website" ∧ IsUnnumbered "website" ∧ IsFieldName "route53_zone" ∧
      ¬ IsUnnumbered "route53_zone" ∧
      RecordsBlock .empty (scanArguments .empty .zero none
        [blockIntroduction "website", "", "* `path` - Page", "* `path` - Path"]).1 "website"
        ["* `path` - Page", "* `path` - Path"] ∧
      scanArguments .empty .zero none [blockIntroduction "route53_zone", "", "* `path` - Page"] =
        scanArguments .empty .zero none ["* `path` - Page"] := by
  have hwebsite : IsFieldName "website" := by decide +kernel
  have hletters : IsUnnumbered "website" := by decide +kernel
  have hzone : IsFieldName "route53_zone" := by decide +kernel
  have hdigits : ¬ IsUnnumbered "route53_zone" := by decide +kernel
  exact ⟨hwebsite, hletters, hzone, hdigits,
    (recordsBlock_scanArguments_iff hwebsite).1.mpr hletters .empty .zero "" _ rfl
      (by decide +kernel),
    (recordsBlock_scanArguments_iff hzone).2 hdigits .empty .zero "" _ rfl⟩

/-- Not every name of a bullet can introduce a block. -/
theorem not_recordsBlock_scanArguments :
    ¬ ∀ name, IsFieldName name → ∀ doc stats blank bullets, isBlankLine blank = true →
      (∀ line ∈ bullets, (bulletField? line).isSome = true) →
        RecordsBlock doc
          (scanArguments doc stats none (blockIntroduction name :: blank :: bullets)).1 name
          bullets := by
  intro hall
  have hfields := (hall "ipv6" (by decide +kernel) .empty .zero "" ["* `enabled` - On."] rfl
    (by decide +kernel)).fields "enabled"
  exact absurd hfields (by decide +kernel)

end Markdown

end ProviderDocs
