/-!
# Stable sorting

A sort is stable when elements that may stand in either order stay in the order that they had.
-/

namespace ProviderDocs

/-- A merge sort keeps elements in order that may stand in either order. -/
theorem filter_mergeSort {α : Type} {le : α → α → Bool}
    (htrans : ∀ a b c, le a b = true → le b c = true → le a c = true)
    (htotal : ∀ a b, (le a b || le b a) = true) (list : List α) {select : α → Bool}
    (hselect : ∀ a b, select a = true → select b = true → le a b = true) :
    (list.mergeSort le).filter select = list.filter select := by
  have hpairwise : (list.filter select).Pairwise fun a b ↦ le a b = true :=
    List.pairwise_of_forall_mem_list fun a ha b hb ↦
      hselect a b (List.mem_filter.mp ha).2 (List.mem_filter.mp hb).2
  have hsublist : (list.filter select).Sublist (list.mergeSort le) :=
    List.sublist_mergeSort htrans htotal hpairwise List.filter_sublist
  have hfiltered := hsublist.filter select
  rw [List.filter_filter] at hfiltered
  simp only [Bool.and_self] at hfiltered
  have hperm := (List.mergeSort_perm list le).filter select
  exact (hfiltered.eq_of_length hperm.symm.length_eq).symm

end ProviderDocs
