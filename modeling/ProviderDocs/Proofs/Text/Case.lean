import ProviderDocs.Text.Case

/-!
# Images of the case mappings

A capital or small form is a letter, if it is an ASCII character. So the case mappings yield no
punctuation and no line feed but those they are given.
-/

namespace ProviderDocs.Text

/-- The code points that a case mapping yields for the characters in its tables. -/
def caseForms (sequences : List (Nat × List Nat)) (table : List CaseRun) : List Nat :=
  sequences.flatMap (·.2) ++
    table.flatMap fun entry ↦
      (List.range (entry.run.last - entry.run.first + 1)).map (entry.target + ·)

/-- A letter, or a character outside ASCII. -/
def isForm (c : Char) : Bool := c.isAlpha || 0x80 ≤ c.toNat

theorem mem_caseForms_of_mapRuns? (sequences : List (Nat × List Nat)) {table : List CaseRun}
    {c form : Char} (h : mapRuns? table c = some form) :
    ∃ code ∈ caseForms sequences table, form = Char.ofNat code := by
  obtain ⟨entry, hentry, rfl⟩ := Option.map_eq_some_iff.mp h
  have hcontains := List.find?_some hentry
  simp only [Run.contains, Bool.and_eq_true, decide_eq_true_eq] at hcontains
  refine ⟨_, List.mem_append_right _ (List.mem_flatMap.mpr ⟨entry,
    List.mem_of_find?_eq_some hentry, List.mem_map.mpr ⟨_, List.mem_range.mpr ?_, rfl⟩⟩), rfl⟩
  omega

theorem mem_mapCase {sequences : List (Nat × List Nat)} {table : List CaseRun} {c form : Char}
    (h : form ∈ mapCase sequences table c) :
    form = c ∨ ∃ code ∈ caseForms sequences table, form = Char.ofNat code := by
  unfold mapCase at h
  split at h
  · next codes hcodes =>
    obtain ⟨code, hcode, rfl⟩ := List.mem_map.mp h
    obtain ⟨front, rest, hsplit, -⟩ := List.lookup_eq_some_iff.mp hcodes
    have hentry : (c.toNat, codes) ∈ sequences :=
      hsplit ▸ List.mem_append_right _ List.mem_cons_self
    exact .inr ⟨code, List.mem_append_left _ (List.mem_flatMap.mpr ⟨_, hentry, hcode⟩), rfl⟩
  · rw [List.mem_singleton] at h
    cases hrun : mapRuns? table c with
    | none => exact .inl (by rw [h, hrun, Option.getD_none])
    | some image =>
      obtain rfl : form = image := by rw [h, hrun, Option.getD_some]
      exact .inr (mem_caseForms_of_mapRuns? sequences hrun)

theorem isForm_of_mem_mapCase {sequences : List (Nat × List Nat)} {table : List CaseRun}
    (hforms : ∀ code ∈ caseForms sequences table, isForm (Char.ofNat code) = true)
    {c form : Char} (h : form ∈ mapCase sequences table c) : form = c ∨ isForm form = true := by
  rcases mem_mapCase h with heq | ⟨code, hcode, rfl⟩
  · exact .inl heq
  · exact .inr (hforms code hcode)

theorem isForm_of_mem_upper {c form : Char} (h : form ∈ upper c) :
    form = c ∨ isForm form = true :=
  isForm_of_mem_mapCase (by decide +kernel) h

theorem isForm_of_mem_lower {c form : Char} (h : form ∈ lower c) :
    form = c ∨ isForm form = true :=
  isForm_of_mem_mapCase (by decide +kernel) h

end ProviderDocs.Text
