import Mathlib.Data.List.Nodup

/-!
# Sorting by a key

Names are sorted as texts, and commands are sorted by their numbers.  What is sorted by a key
comes in the order of the keys; and if the keys are different, there is only one such order.

Things with equal keys keep their order (`filter_sorted_by`), so the order is told whole by what
there is of every key (`eq_of_filter_eq`).  Hence sorting two lists together is merging what each
of them is sorted to (`sorted_by_append`).
-/

namespace VisualNovel

variable {α κ : Type} [LE κ] [DecidableLE κ] [Std.IsLinearOrder κ]

theorem le_by_trans (key : α → κ) (first second third : α)
    (hle : decide (key first ≤ key second) = true) (hle' : decide (key second ≤ key third) = true) :
    decide (key first ≤ key third) = true := by
  rw [decide_eq_true_eq] at hle hle' ⊢
  exact Std.le_trans hle hle'

theorem le_by_total (key : α → κ) (first second : α) :
    (decide (key first ≤ key second) || decide (key second ≤ key first)) = true := by
  rw [Bool.or_eq_true, decide_eq_true_eq, decide_eq_true_eq]
  exact Std.le_total

theorem pairwise_sorted_by (key : α → κ) (items : List α) :
    (items.mergeSort fun first second => key first ≤ key second).Pairwise
      fun first second => key first ≤ key second :=
  (List.pairwise_mergeSort (le_by_trans key) (le_by_total key) items).imp of_decide_eq_true

/-- Things with different keys are sorted in one way only. -/
theorem sorted_by_eq_of_perm (key : α → κ) {items permuted : List α} (hperm : items.Perm permuted)
    (hdistinct : (items.map key).Nodup) :
    (items.mergeSort fun first second => key first ≤ key second) =
      permuted.mergeSort fun first second => key first ≤ key second := by
  have hsorted := ((List.mergeSort_perm items fun first second => key first ≤ key second).trans
    hperm).trans (List.mergeSort_perm permuted fun first second => key first ≤ key second).symm
  refine hsorted.eq_of_pairwise ?_ (pairwise_sorted_by key items) (pairwise_sorted_by key permuted)
  intro first second hfirst hsecond hle hge
  have hmem : first ∈ items := List.mem_mergeSort.mp hfirst
  have hmem' : second ∈ items := hperm.mem_iff.mpr (List.mem_mergeSort.mp hsecond)
  exact List.inj_on_of_nodup_map hdistinct hmem hmem' (Std.le_antisymm hle hge)

/-! ## Things with equal keys -/

variable [DecidableEq κ]

/-- Sorting keeps the order of things with equal keys. -/
theorem filter_sorted_by (key : α → κ) (items : List α) (shared : κ) :
    (items.mergeSort fun first second => key first ≤ key second).filter
        (fun item => key item = shared) =
      items.filter fun item => key item = shared := by
  have hequal : (items.filter fun item => key item = shared).Pairwise
      fun first second => decide (key first ≤ key second) = true := by
    refine List.pairwise_of_forall_mem_list fun first hfirst second hsecond => ?_
    rw [List.mem_filter, decide_eq_true_eq] at hfirst hsecond
    rw [decide_eq_true_eq, hfirst.2, hsecond.2]
    exact Std.le_refl _
  have hsublist := (List.sublist_mergeSort (le_by_trans key) (le_by_total key) hequal
    List.filter_sublist).filter fun item => decide (key item = shared)
  rw [List.filter_filter] at hsublist
  simp only [Bool.and_self] at hsublist
  refine (hsublist.eq_of_length ?_).symm
  exact ((List.mergeSort_perm items _).filter _).length_eq.symm

omit [LE κ] [DecidableLE κ] [Std.IsLinearOrder κ] in
theorem mem_iff_of_filter_eq (key : α → κ) {items others : List α}
    (hsame : ∀ shared, items.filter (fun item => key item = shared) =
      others.filter fun item => key item = shared) (item : α) : item ∈ items ↔ item ∈ others := by
  have hfilter := congrArg (item ∈ ·) (hsame (key item))
  simpa using hfilter

omit [DecidableLE κ] in
/-- What is sorted by a key is told by the things of every key, in their order. -/
theorem eq_of_filter_eq (key : α → κ) {items others : List α}
    (hitems : items.Pairwise fun first second => key first ≤ key second)
    (hothers : others.Pairwise fun first second => key first ≤ key second)
    (hsame : ∀ shared, items.filter (fun item => key item = shared) =
      others.filter fun item => key item = shared) : items = others := by
  induction items generalizing others with
  | nil =>
      have hmem := mem_iff_of_filter_eq key hsame
      refine (List.eq_nil_iff_forall_not_mem.mpr fun item hitem => ?_).symm
      cases (hmem item).mpr hitem
  | cons first rest ih =>
      have hmem := mem_iff_of_filter_eq key hsame
      cases others with
      | nil => cases (hmem first).mp (List.mem_cons_self ..)
      | cons second more =>
          rw [List.pairwise_cons] at hitems hothers
          have hle : key first ≤ key second := by
            rcases List.mem_cons.mp ((hmem second).mpr (List.mem_cons_self ..)) with rfl | hlater
            · exact Std.le_refl _
            · exact hitems.1 second hlater
          have hge : key second ≤ key first := by
            rcases List.mem_cons.mp ((hmem first).mp (List.mem_cons_self ..)) with rfl | hlater
            · exact Std.le_refl _
            · exact hothers.1 first hlater
          have hkey := Std.le_antisymm hle hge
          -- both come first among the things of their key
          have hfirst := hsame (key first)
          rw [List.filter_cons_of_pos (by simp), List.filter_cons_of_pos (by simp [hkey])] at hfirst
          obtain ⟨rfl, -⟩ := List.cons.inj hfirst
          have hrest : ∀ shared, rest.filter (fun item => key item = shared) =
              more.filter fun item => key item = shared := by
            intro shared
            have hshared := hsame shared
            rw [List.filter_cons, List.filter_cons] at hshared
            split_ifs at hshared
            · exact (List.cons.inj hshared).2
            · exact hshared
          rw [ih hitems.2 hothers.2 hrest]

/-- Of two things with equal keys, merging takes the one on the left first. -/
theorem filter_merge_by (key : α → κ) {items others : List α}
    (hitems : items.Pairwise fun first second => key first ≤ key second) (shared : κ) :
    (items.merge others fun first second => key first ≤ key second).filter
        (fun item => key item = shared) =
      items.filter (fun item => key item = shared) ++
        others.filter fun item => key item = shared := by
  induction items generalizing others with
  | nil => simp
  | cons first rest ih =>
      induction others with
      | nil => simp
      | cons second more ih' =>
          rw [List.cons_merge_cons]
          split_ifs with hle
          · rw [List.filter_cons, List.filter_cons, ih hitems.of_cons]
            split_ifs <;> rfl
          · rw [List.filter_cons, ih', List.filter_cons (x := second)]
            split_ifs with hkey
            · -- what is on the left has greater keys
              have hnone : (first :: rest).filter (fun item => key item = shared) = [] := by
                rw [List.filter_eq_nil_iff]
                intro item hmem
                rw [decide_eq_true_eq] at hkey hle ⊢
                rintro rfl
                rcases List.mem_cons.mp hmem with rfl | hlater
                · exact hle (hkey ▸ Std.le_refl _)
                · exact hle (hkey ▸ (List.pairwise_cons.mp hitems).1 item hlater)
              rw [hnone]
              rfl
            · rfl

theorem sorted_by_append (key : α → κ) (items others : List α) :
    ((items ++ others).mergeSort fun first second => key first ≤ key second) =
      (items.mergeSort fun first second => key first ≤ key second).merge
        (others.mergeSort fun first second => key first ≤ key second)
        fun first second => key first ≤ key second := by
  have hmerged := List.pairwise_merge (le_by_trans key) (le_by_total key) _ _
    (List.pairwise_mergeSort (le_by_trans key) (le_by_total key) items)
    (List.pairwise_mergeSort (le_by_trans key) (le_by_total key) others)
  refine eq_of_filter_eq key (pairwise_sorted_by key _) (hmerged.imp of_decide_eq_true)
    fun shared => ?_
  rw [filter_sorted_by, List.filter_append, filter_merge_by key (pairwise_sorted_by key items),
    filter_sorted_by, filter_sorted_by]

end VisualNovel
