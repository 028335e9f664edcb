import Mathlib.Data.List.Perm.Basic
import ProviderDocs.Proofs.Dict
import ProviderDocs.Stats.Basic

/-!
# Adding up counts

A count that is added shows under its key alone, so counts can be added in any order. Statistics
are added up counter by counter, and so neither the order in which they are taken nor how they are
put together beforehand shows in the sum.
-/

namespace ProviderDocs

namespace Tally

theorem get?_add (tally : Tally) (key other : String) (count : Nat) :
    (tally.add key count).get? other =
      if other = key then some ((tally.get? key).getD 0 + count) else tally.get? other :=
  Dict.get?_insert ..

theorem add_comm (tally : Tally) (key other : String) (count more : Nat) :
    (tally.add key count).add other more = (tally.add other more).add key count := by
  apply Dict.ext_get?
  intro name
  simp only [get?_add]
  by_cases h : key = other
  · subst h
    split <;> simp [Nat.add_right_comm]
  · by_cases hname : name = other
    · subst hname
      simp [Ne.symm h]
    · simp [h, hname]

/-- A key that is counted one by one counts as often more as it is listed. -/
theorem get?_foldl_add (keys : List String) (tally : Tally) (key : String) :
    (keys.foldl (fun tally key ↦ tally.add key 1) tally).get? key =
      if key ∈ keys then some ((tally.get? key).getD 0 + keys.count key) else tally.get? key := by
  induction keys generalizing tally with
  | nil => simp
  | cons first rest ih =>
    rw [List.foldl_cons, ih, get?_add]
    by_cases hfirst : key = first
    · subst hfirst
      by_cases hrest : key ∈ rest
      · simp [hrest, Nat.add_assoc, Nat.add_comm]
      · simp [hrest, List.count_eq_zero_of_not_mem hrest]
    · simp [hfirst, List.count_cons_of_ne (Ne.symm hfirst)]

/-- Every count of the other tally is added under its key. -/
theorem get?_merge (tally other : Tally) (key : String) :
    (tally.merge other).get? key =
      ((other.get? key).map ((tally.get? key).getD 0 + ·)).or (tally.get? key) :=
  Dict.get?_foldl_combine (fun before count ↦ before.getD 0 + count) other.sorted tally key

theorem empty_merge (tally : Tally) : merge ∅ tally = tally := by
  apply Dict.ext_get?
  intro key
  have hnone : Dict.get? (∅ : Tally) key = none := rfl
  rw [get?_merge, hnone, Option.getD_none, Option.or_none]
  cases tally.get? key <;> simp

/-- Counts are added under a key that both tallies have, and kept under any other. -/
theorem get?_merge_eq_merge (tally other : Tally) (key : String) :
    (tally.merge other).get? key = (tally.get? key).merge (· + ·) (other.get? key) := by
  rw [get?_merge]
  cases tally.get? key with
  | none => cases other.get? key <;> simp
  | some count => cases other.get? key <;> simp

theorem merge_comm (a b : Tally) : a.merge b = b.merge a := by
  apply Dict.ext_get?
  intro key
  rw [get?_merge_eq_merge, get?_merge_eq_merge]
  exact Std.Commutative.comm _ _

theorem merge_assoc (a b c : Tally) : (a.merge b).merge c = a.merge (b.merge c) := by
  apply Dict.ext_get?
  intro key
  simp only [get?_merge_eq_merge]
  exact Std.Associative.assoc _ _ _

theorem getD_get?_merge (tally other : Tally) (key : String) :
    ((tally.merge other).get? key).getD 0 =
      (tally.get? key).getD 0 + (other.get? key).getD 0 := by
  rw [get?_merge_eq_merge]
  cases tally.get? key with
  | none => cases other.get? key <;> simp
  | some count => cases other.get? key <;> simp

end Tally

namespace Stats

theorem zero_merge (stats : Stats) : zero.merge stats = stats := by
  unfold merge zero
  simp only [Tally.empty_merge, Nat.zero_add]

theorem merge_comm (a b : Stats) : a.merge b = b.merge a := by
  simp only [merge, mk.injEq]
  exact ⟨Tally.merge_comm .., Nat.add_comm .., Nat.add_comm .., Nat.add_comm .., Nat.add_comm ..,
    Nat.add_comm .., Nat.add_comm .., Nat.add_comm .., Nat.add_comm .., Nat.add_comm ..,
    Nat.add_comm .., Tally.merge_comm .., Nat.add_comm ..⟩

theorem merge_assoc (a b c : Stats) : (a.merge b).merge c = a.merge (b.merge c) := by
  simp only [merge, mk.injEq]
  exact ⟨Tally.merge_assoc .., Nat.add_assoc .., Nat.add_assoc .., Nat.add_assoc ..,
    Nat.add_assoc .., Nat.add_assoc .., Nat.add_assoc .., Nat.add_assoc .., Nat.add_assoc ..,
    Nat.add_assoc .., Nat.add_assoc .., Tally.merge_assoc .., Nat.add_assoc ..⟩

theorem merge_zero (stats : Stats) : stats.merge zero = stats := by
  rw [merge_comm, zero_merge]

instance : Std.Commutative merge := ⟨merge_comm⟩

instance : Std.Associative merge := ⟨merge_assoc⟩

/-! ## Sums -/

theorem sum_cons (first : Stats) (rest : List Stats) :
    sum (first :: rest) = rest.foldl merge first := by
  rw [sum, List.foldl_cons, zero_merge]

theorem sum_append (list more : List Stats) :
    sum (list ++ more) = (sum list).merge (sum more) := by
  calc
    sum (list ++ more) = more.foldl merge (sum list) := List.foldl_append
    _ = more.foldl merge ((sum list).merge zero) := by rw [merge_zero]
    _ = (sum list).merge (sum more) := List.foldl_assoc

/-- Parts may be summed first. -/
theorem sum_map_sum (parts : List (List Stats)) : sum (parts.map sum) = sum parts.flatten := by
  induction parts with
  | nil => rfl
  | cons part rest ih =>
    calc
      sum ((part :: rest).map sum) = sum ([sum part] ++ rest.map sum) := rfl
      _ = (sum part).merge (sum (rest.map sum)) := by rw [sum_append, sum_cons, List.foldl_nil]
      _ = (sum part).merge (sum rest.flatten) := by rw [ih]
      _ = sum (part :: rest).flatten := by rw [List.flatten_cons, sum_append]

theorem sum_eq_of_perm {list other : List Stats} (h : list.Perm other) : sum list = sum other :=
  h.foldl_eq zero

/-- What is counted. -/
inductive Counter where
  | ignoredHeader (header : String)
  | unexpectedSnippets
  | arguments
  | ambiguousSections
  | unmatchedBlocks
  | elidedArguments
  | elidedAttributes
  | elidedDescriptions
  | elidedProse
  | missingDocs
  | failedExamples
  | partialFailure (language : String)
  | warnings

def count (stats : Stats) : Counter → Nat
  | .ignoredHeader header => (stats.ignoredHeaders.get? header).getD 0
  | .unexpectedSnippets => stats.unexpectedSnippets
  | .arguments => stats.arguments
  | .ambiguousSections => stats.ambiguousSections
  | .unmatchedBlocks => stats.unmatchedBlocks
  | .elidedArguments => stats.elidedArguments
  | .elidedAttributes => stats.elidedAttributes
  | .elidedDescriptions => stats.elidedDescriptions
  | .elidedProse => stats.elidedProse
  | .missingDocs => stats.missingDocs
  | .failedExamples => stats.failedExamples
  | .partialFailure language => (stats.partialFailures.get? language).getD 0
  | .warnings => stats.warnings

theorem count_merge (a b : Stats) (counter : Counter) :
    (a.merge b).count counter = a.count counter + b.count counter := by
  cases counter with
  | ignoredHeader header => exact Tally.getD_get?_merge ..
  | partialFailure language => exact Tally.getD_get?_merge ..
  | _ => rfl

/-- No count of some of the statistics is greater than that of all of them. -/
theorem count_sum_le_of_subperm {list part : List Stats} (h : part.Subperm list)
    (counter : Counter) : (sum part).count counter ≤ (sum list).count counter := by
  obtain ⟨same, hsame, hsublist⟩ := h
  obtain ⟨rest, hrest⟩ := hsublist.exists_perm_append
  calc
    (sum part).count counter = (sum same).count counter := by rw [sum_eq_of_perm hsame]
    _ ≤ (sum same).count counter + (sum rest).count counter := Nat.le_add_right ..
    _ = (sum list).count counter := by rw [← count_merge, ← sum_append, sum_eq_of_perm hrest]

/-- Merging adds every counter. It is associative and commutative, and statistics without counts are
its identity. So a sum does not depend on the order of its statistics or on how they are put
together in parts that are summed first. A counter that has room for the count of the whole has
room for that of any part. -/
theorem merge_laws_and_sums_agree :
    (∀ (a b : Stats) (counter : Counter),
        (a.merge b).count counter = a.count counter + b.count counter) ∧
      (∀ a b c : Stats, (a.merge b).merge c = a.merge (b.merge c)) ∧
      (∀ a b : Stats, a.merge b = b.merge a) ∧
      (∀ a : Stats, zero.merge a = a ∧ a.merge zero = a) ∧
      (∀ (list : List Stats) (parts : List (List Stats)), parts.flatten.Perm list →
        sum (parts.map sum) = sum list) ∧
      ∀ (list part : List Stats), part.Subperm list →
        ∀ counter, (sum part).count counter ≤ (sum list).count counter := by
  refine ⟨count_merge, merge_assoc, merge_comm, fun a ↦ ⟨zero_merge a, merge_zero a⟩, ?_, ?_⟩
  · intro list parts hparts
    calc
      sum (parts.map sum) = sum parts.flatten := sum_map_sum parts
      _ = sum list := sum_eq_of_perm hparts
  · intro list part hpart
    exact count_sum_le_of_subperm hpart

/-- The counts of three pages, two of which skip the same heading. The third has come to no count
under it. -/
def pageStats : List Stats := [
  zero.countIgnored "Timeouts",
  ((zero.countIgnored "Timeouts").countIgnored "User Project Override").warn,
  { zero.partialFailure "python" with ignoredHeaders := Tally.add ∅ "Timeouts" 0 }]

theorem merge_laws_and_sums_agree_pageStats :
    [pageStats.drop 1, pageStats.take 1].flatten.Perm pageStats ∧
      sum ([pageStats.drop 1, pageStats.take 1].map sum) = sum pageStats ∧
      (pageStats.drop 1).Subperm pageStats ∧
      (sum (pageStats.drop 1)).count (.ignoredHeader "Timeouts") ≤
        (sum pageStats).count (.ignoredHeader "Timeouts") ∧
      (sum pageStats).count (.ignoredHeader "Timeouts") = 2 := by
  obtain ⟨-, -, -, -, hsums, hcounts⟩ := merge_laws_and_sums_agree
  have hparts : [pageStats.drop 1, pageStats.take 1].flatten.Perm pageStats :=
    List.perm_append_comm
  have hpart : (pageStats.drop 1).Subperm pageStats := (List.drop_sublist 1 pageStats).subperm
  exact ⟨hparts, hsums _ _ hparts, hpart, hcounts _ _ hpart _, by decide +kernel⟩

end Stats

end ProviderDocs
