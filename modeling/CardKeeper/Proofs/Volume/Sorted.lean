import CardKeeper.Proofs.Volume.Lookup

/-!
# Names and texts in order

The names of a folder are looked at in strictly ascending order, byte by byte.  Such a list is
determined by its members, so that it does not matter in which order a folder lists its names.  The
same goes for sorted texts: `sort_eq_of_perm`.
-/

namespace CardKeeper

theorem sort_eq_of_perm {left right : List String} (perm : left.Perm right) :
    (left.mergeSort fun first second => first ≤ second) =
      right.mergeSort fun first second => first ≤ second := by
  have sorted (lines : List String) : (lines.mergeSort fun first second => first ≤ second).Pairwise
      fun first second => decide (first ≤ second) = true := by
    refine List.pairwise_mergeSort (fun first second third below above => ?_)
      (fun first second => ?_) lines
    · simp only [decide_eq_true_eq] at below above ⊢
      exact String.le_trans below above
    · simpa using String.le_total first second
  refine List.Perm.eq_of_pairwise (fun first second _ _ below above => ?_) (sorted left)
    (sorted right) ?_
  · simp only [decide_eq_true_eq] at below above
    exact String.le_antisymm below above
  · exact (List.mergeSort_perm left _).trans (perm.trans (List.mergeSort_perm right _).symm)

/-- Lists in the strictly ascending order of bytes are equal if they have the same members. -/
theorem eq_of_ascending {α : Type} {bytes : α → Bytes} {left right : List α}
    (leftAscending : left.Pairwise fun first second => bytes first < bytes second)
    (rightAscending : right.Pairwise fun first second => bytes first < bytes second)
    (same : ∀ item, item ∈ left ↔ item ∈ right) : left = right := by
  have nodup {list : List α}
      (ascending : list.Pairwise fun first second => bytes first < bytes second) : list.Nodup :=
    ascending.imp fun {first second} before (equal : first = second) =>
      List.lt_irrefl _ (equal ▸ before)
  refine List.Perm.eq_of_pairwise (fun first second _ _ before after => ?_) leftAscending
    rightAscending ?_
  · exact absurd (List.lt_trans before after) (List.lt_irrefl _)
  · exact (List.perm_ext_iff_of_nodup (nodup leftAscending) (nodup rightAscending)).mpr same

namespace Volume

/-- Names in strictly ascending order. -/
def Ascending (names : List Name) : Prop :=
  names.Pairwise fun left right => left.bytes < right.bytes

theorem ascending_mergeSort {names : List Name} (distinct : names.Nodup) :
    Ascending (names.mergeSort nameLe) := by
  have sorted : (names.mergeSort nameLe).Pairwise fun left right => nameLe left right = true := by
    refine List.pairwise_mergeSort (fun first second third below above => ?_)
      (fun left right => ?_) names
    · simp only [nameLe, decide_eq_true_eq] at below above ⊢
      exact List.le_trans below above
    · simpa [nameLe] using List.le_total left.bytes right.bytes
  have apart : (names.mergeSort nameLe).Nodup :=
    (List.mergeSort_perm names nameLe).nodup_iff.mpr distinct
  refine (List.pairwise_and_iff.mpr ⟨sorted, apart⟩).imp fun {left right} both => ?_
  obtain ⟨below, differ⟩ := both
  simp only [nameLe, decide_eq_true_eq] at below
  rcases List.le_iff_lt_or_eq.mp below with before | same
  · exact before
  · exact absurd (Name.ext_bytes same) differ

theorem Ascending.filter {names : List Name} (ascending : Ascending names) (test : Name → Bool) :
    Ascending (names.filter test) :=
  List.Pairwise.filter test ascending

theorem Ascending.nodup {names : List Name} (ascending : Ascending names) : names.Nodup :=
  List.Pairwise.imp (fun {left right} before (same : left = right) =>
    List.lt_irrefl _ (same ▸ before)) ascending

/-- Names in order are determined by which they are. -/
theorem Ascending.eq_of_mem_iff {left right : List Name} (leftAscending : Ascending left)
    (rightAscending : Ascending right) (same : ∀ name, name ∈ left ↔ name ∈ right) :
    left = right :=
  eq_of_ascending leftAscending rightAscending same

end Volume
end CardKeeper
