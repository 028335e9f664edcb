import ProviderDocs.Proofs.Cleanup.CodeBlock
import ProviderDocs.Proofs.Cleanup.RenamedLink

/-!
# Relative links after cleanup

A target is taken for absolute when it begins with `http`, so a link to a page of such a name stays
as it is. Where links stand apart no other relative link is left.
-/

namespace ProviderDocs

namespace Cleanup

/-! ## Text without code -/

theorem cutPieces_eq_prose {before text : List Char}
    (h : ∀ block, Piece.code block ∉ cutPieces before text) :
    cutPieces before text = [.prose (before.reverse ++ text)] := by
  fun_induction cutPieces before text with
  | case1 before => simp
  | case2 before c text hnone ih => simpa using ih h
  | case3 before c text block rest hsome hlength ih => exact absurd (by simp) (h block)
  | case4 before c text block rest hsome hlength ih => simpa using ih h

theorem pieces_eq_prose {text : List Char} (h : ∀ block, Piece.code block ∉ pieces text) :
    pieces text = [.prose text] :=
  cutPieces_eq_prose h

/-! ## Links at the ends of a text -/

/-- A link begins with a bracket. -/
theorem holdsLink_append_iff_of_bracket {text front : List Char} (h : '[' ∉ front)
    {target : List Char} : HoldsLink (front ++ text) target ↔ HoldsLink text target := by
  rw [← mem_targets_iff, ← mem_targets_iff, targets_append h]

/-- A link ends with a parenthesis. -/
theorem holdsLink_append_iff_of_parenthesis {text behind : List Char} (h : ')' ∉ behind)
    {target : List Char} : HoldsLink (text ++ behind) target ↔ HoldsLink text target := by
  constructor
  · rintro ⟨front, label, rest, hlabel, htarget, htext⟩
    rcases List.append_eq_append_iff.mp htext with ⟨more, hlink, hbehind⟩ | ⟨more, rfl, -⟩
    · rcases List.eq_nil_or_concat more with rfl | ⟨before, last, rfl⟩
      · rw [List.append_nil] at hlink
        exact ⟨front, label, [], hlabel, htarget, by rw [← hlink, List.append_nil]⟩
      · have hends : front ++ linkText label target =
            (front ++ '[' :: label ++ ']' :: '(' :: target) ++ [')'] := by simp [linkText]
        rw [hends, List.concat_eq_append, ← List.append_assoc] at hlink
        have hlast := (List.append_inj' hlink rfl).2
        simp [hbehind, ← hlast] at h
    · exact ⟨front, label, more, hlabel, htarget, rfl⟩
  · rintro ⟨front, label, rest, hlabel, htarget, rfl⟩
    exact ⟨front, label, rest ++ behind, hlabel, htarget, List.append_assoc ..⟩

theorem holdsLink_trim {text target : List Char} :
    HoldsLink (Text.trim text) target ↔ HoldsLink text target := by
  obtain ⟨behind, hend, hblank⟩ := Text.exists_eq_dropBlankEnd_append (Text.dropBlank text)
  have hbehind : ')' ∉ behind := Text.notMem_of_class (List.all_eq_true.mp hblank) (by decide)
  have hbefore : '[' ∉ text.takeWhile Text.isBlank :=
    Text.notMem_of_class (List.all_eq_true.mp List.all_takeWhile) (by decide)
  have hfront : text = text.takeWhile Text.isBlank ++ Text.dropBlank text :=
    List.takeWhile_append_dropWhile.symm
  rw [Text.trim, ← holdsLink_append_iff_of_parenthesis hbehind, ← hend,
    ← holdsLink_append_iff_of_bracket hbefore, ← hfront]

/-! ## Links after cleanup -/

/-- Prose as it is when its inline links are resolved; links by number have become inline. -/
def inlineText (context : Context) (text : List Char) : List Char :=
  replaceNumberedReferences context.linkTargets
    (Text.substitute pageReference? (dropQualifierLines (replaceNoteMarks text)))

theorem adaptProse_eq (context : Context) (text : List Char) :
    adaptProse context text =
      renameReferences context (Text.substitute inlineLink? (inlineText context text)) := rfl

/-- The target is an address on the web, not a page of the same site. -/
def IsAbsolute (target : List Char) : Prop :=
  "http://".toList <+: target ∨ "https://".toList <+: target

instance (target : List Char) : Decidable (IsAbsolute target) :=
  inferInstanceAs (Decidable (_ ∨ _))

theorem isAbsolute_renameReferences_iff (context : Context) {target : List Char} :
    IsAbsolute (renameReferences context target) ↔ IsAbsolute target :=
  or_congr (prefix_renameReferences_iff context (by decide +kernel))
    (prefix_renameReferences_iff context (by decide +kernel))

section

variable {context : Context} (hnames : HasPlainNames context.provider)

include hnames

/-- The links of adapted prose are those of its text, with their targets resolved. -/
theorem holdsLink_adaptProse_iff {text : List Char}
    (hapart : LinksApart none (inlineText context text)) {target : List Char} :
    HoldsLink (adaptProse context text) target ↔
      ∃ source resolved, HoldsLink (inlineText context text) source ∧
        resolvedTarget? source = some resolved ∧ renameReferences context resolved = target := by
  have hresolved : targets (Text.substitute inlineLink? (inlineText context text)) =
      (targets (inlineText context text)).filterMap resolvedTarget? :=
    targetsFrom_substitute hapart nofun
  have hrenamed : targets (adaptProse context text) =
      ((targets (inlineText context text)).filterMap resolvedTarget?).map
        (renameReferences context) := by
    rw [adaptProse_eq, ← hresolved]
    exact targetsFrom_renameReferences hnames _ false
  rw [← mem_targets_iff, hrenamed]
  simp only [List.mem_map, List.mem_filterMap, mem_targets_iff]
  constructor
  · rintro ⟨resolved, ⟨source, hsource, hsome⟩, htarget⟩
    exact ⟨source, resolved, hsource, hsome, htarget⟩
  · rintro ⟨source, resolved, hsource, hsome, htarget⟩
    exact ⟨resolved, ⟨source, hsource, hsome⟩, htarget⟩

/-- Where links stand apart, relative links are left only to pages whose names begin with `http`. -/
theorem isAbsolute_of_holdsLink_iff {text result : String}
    (hprose : ∀ block, Piece.code block ∉ pieces text.toList)
    (hclean : cleanText? context text = some result)
    (hapart : LinksApart none (inlineText context text.toList)) :
    (∀ target, HoldsLink result.toList target → IsAbsolute target) ↔
      ∀ target, HoldsLink (inlineText context text.toList) target →
        "http".toList <+: target → IsAbsolute target := by
  have hresult : result.toList = Text.trim (adaptProse context text.toList) := by
    rw [cleanText?_eq, pieces_eq_prose hprose] at hclean
    split at hclean
    · cases hclean
    · cases hclean
      simp [Piece.adapted]
  have hlinks (target : List Char) : HoldsLink result.toList target ↔
      ∃ source resolved, HoldsLink (inlineText context text.toList) source ∧
        resolvedTarget? source = some resolved ∧ renameReferences context resolved = target := by
    rw [hresult, holdsLink_trim, holdsLink_adaptProse_iff hnames hapart]
  constructor
  · intro hall source hsource hhttp
    have hkept := resolvedTarget?_of_prefix hhttp
    exact (isAbsolute_renameReferences_iff context).mp
      (hall _ ((hlinks _).mpr ⟨source, source, hsource, hkept, rfl⟩))
  · intro hall target htarget
    obtain ⟨source, resolved, hsource, hsome, rfl⟩ := (hlinks target).mp htarget
    rw [isAbsolute_renameReferences_iff]
    rcases prefix_or_eq_of_resolvedTarget? hsome with ⟨hhttp, rfl⟩ | rfl
    · exact hall _ hsource hhttp
    · have hhost : "https://".toList <+: host := by decide +kernel
      exact .inr (hhost.trans (List.prefix_append ..))

end

/-! ## A text with relative links -/

def bucketContext : Context where
  language := .nodejs
  provider := { Provider.empty with
    name := "aws"
    resources := .ofList [("aws_bucket", ⟨"aws:s3/bucket:Bucket", none, []⟩)] }
  linkTargets := .ofList [("[1]", "https://www.terraform.io/logs")]

def bucketText : String :=
  "A `aws_bucket` has [rules](/docs/rules.html), [logs][1] and a [key](#key).\n"

def bucketResult : String :=
  "A `aws.s3.Bucket` has [rules](https://www.terraform.io/docs/rules.html), " ++
    "[logs](https://www.terraform.io/logs) and a key."

theorem isAbsolute_of_holdsLink_iff_bucketText :
    cleanText? bucketContext bucketText = some bucketResult ∧
      ∀ target, HoldsLink bucketResult.toList target → IsAbsolute target := by
  have hnames : HasPlainNames bucketContext.provider :=
    ⟨by decide +kernel, by decide +kernel, by decide +kernel⟩
  have hpieces : pieces bucketText.toList = [.prose bucketText.toList] := by decide +kernel
  have hclean : cleanText? bucketContext bucketText = some bucketResult := by decide +kernel
  refine ⟨hclean, (isAbsolute_of_holdsLink_iff hnames ?_ hclean ?_).mpr ?_⟩
  · rw [hpieces]
    simp
  · decide +kernel
  · simp only [← mem_targets_iff]
    decide +kernel

/-- A relative link may be left. -/
theorem not_isAbsolute_of_holdsLink :
    ¬ ∀ (context : Context) (text result : String),
      (∀ block, Piece.code block ∉ pieces text.toList) → cleanText? context text = some result →
        ∀ target, HoldsLink result.toList target → IsAbsolute target := by
  intro hall
  have hpieces : pieces "See [daemon](httpd.html).".toList =
      [.prose "See [daemon](httpd.html).".toList] := by decide +kernel
  have hlink : HoldsLink "See [daemon](httpd.html).".toList "httpd.html".toList :=
    ⟨"See ".toList, "daemon".toList, ".".toList, by decide, by decide, by decide +kernel⟩
  have hclean : cleanText? ⟨.schema, .empty, ∅⟩ "See [daemon](httpd.html)." =
      some "See [daemon](httpd.html)." := by decide +kernel
  have habsolute := hall _ _ _ (by rw [hpieces]; simp) hclean _ hlink
  exact absurd habsolute (by decide +kernel)

end Cleanup

end ProviderDocs
