import CardKeeper.Proofs.Path.Entry

/-!
# Segments and the text of a path

A path spells its segments: they have no slash and only bytes of the path (`of_mem_segments`), and
come back from a path that is put together from them (`segments_ofSegments_of_plain`).  What is
significant of a path is its segments without the filler at the end.
-/

namespace CardKeeper
namespace Path

variable {path : Path} {list : List Bytes} {absolute : Bool} {segment : Bytes} {byte : UInt8}

/-! ## Segments and their text -/

/-- A part of a list that is cut at separators has none. -/
theorem of_mem_splitOn {α : Type} [DecidableEq α] {separator : α} {whole part : List α}
    (member : part ∈ whole.splitOn separator) : separator ∉ part ∧ part ⊆ whole := by
  induction whole generalizing part with
  | nil =>
      rw [List.splitOn_nil, List.mem_singleton] at member
      simp [member]
  | cons first rest ih =>
      rw [List.splitOn_cons_eq_if_modifyHead] at member
      split at member
      · rcases List.mem_cons.mp member with rfl | later
        · simp
        · exact ⟨(ih later).1, List.subset_cons_of_subset first (ih later).2⟩
      · next differs =>
          cases parts : rest.splitOn separator with
          | nil => simp [parts] at member
          | cons head tail =>
              rw [parts] at member ih
              rcases List.mem_cons.mp member with rfl | later
              · obtain ⟨plain, inside⟩ := ih List.mem_cons_self
                have visible : separator ≠ first := fun same => differs (by simp [same])
                exact ⟨by simp [visible, plain], List.cons_subset_cons first inside⟩
              · obtain ⟨plain, inside⟩ := ih (List.mem_cons_of_mem _ later)
                exact ⟨plain, List.subset_cons_of_subset first inside⟩

/-- Segments have no slash, and only bytes of their path. -/
theorem of_mem_segments (member : segment ∈ path.segments) :
    slash ∉ segment ∧ segment ⊆ path.bytes := by
  unfold segments at member
  split at member
  · obtain ⟨plain, inside⟩ := of_mem_splitOn member
    exact ⟨plain, fun _ found => List.mem_of_mem_tail (inside found)⟩
  · exact of_mem_splitOn member

theorem mem_segments_of_mem_prior (member : segment ∈ path.prior) : segment ∈ path.segments := by
  rcases segments_eq_prior path with same | more
  · rwa [same]
  · rw [more]
    exact List.mem_append_left _ member

theorem not_mem_intercalate (differs : byte ≠ slash) (free : ∀ segment ∈ list, byte ∉ segment) :
    byte ∉ [slash].intercalate list := by
  induction list with
  | nil => simp
  | cons first rest ih =>
      have here := free first List.mem_cons_self
      by_cases last : rest = []
      · simpa [last] using here
      · have later := ih fun segment member => free segment (List.mem_cons_of_mem _ member)
        rw [List.intercalate_cons_of_ne_nil last]
        simp [here, differs, later]

theorem not_mem_ofSegments (differs : byte ≠ slash) (free : ∀ segment ∈ list, byte ∉ segment) :
    byte ∉ (ofSegments absolute list).bytes := by
  have inside := not_mem_intercalate differs free
  cases absolute <;> simp [ofSegments, differs, inside]

theorem isAbsolute_ofSegments_of_plain (absolute : Bool)
    (plain : ∀ segment ∈ list, slash ∉ segment)
    (visible : absolute = false → list.head? ≠ some []) :
    (ofSegments absolute list).isAbsolute = absolute := by
  cases absolute with
  | true => simp [ofSegments, isAbsolute]
  | false =>
      cases list with
      | nil => rfl
      | cons first rest =>
          cases first with
          | nil => exact absurd rfl (visible rfl)
          | cons byte more =>
              have differs : byte ≠ slash := fun same =>
                plain _ List.mem_cons_self (by simp [same])
              cases rest <;> simp [ofSegments, isAbsolute, differs, List.intercalate]

/-- Segments come back from their path. -/
theorem segments_ofSegments_of_plain (absolute : Bool)
    (plain : ∀ segment ∈ list, slash ∉ segment)
    (visible : absolute = false → list.head? ≠ some []) :
    (ofSegments absolute list).segments = if list = [] then [[]] else list := by
  have relative := isAbsolute_ofSegments_of_plain absolute plain visible
  have text : (ofSegments absolute list).segments = ([slash].intercalate list).splitOn slash := by
    rw [segments, relative]
    cases absolute <;> rfl
  rw [text]
  split
  · next nothing =>
      subst nothing
      rfl
  · next some => exact List.splitOn_intercalate slash plain some

/-- A path is put together from its segments. -/
theorem ofSegments_segments (path : Path) : ofSegments path.isAbsolute path.segments = path := by
  obtain ⟨bytes⟩ := path
  have text : [slash].intercalate (bytes.splitOn slash) = bytes := List.intercalate_splitOn slash
  cases bytes with
  | nil => exact congrArg mk text
  | cons first rest =>
      by_cases rooted : first = slash
      · have behind : [slash].intercalate (rest.splitOn slash) = rest :=
          List.intercalate_splitOn slash
        simp [ofSegments, segments, isAbsolute, rooted, behind]
      · simp [ofSegments, segments, isAbsolute, rooted, text]

/-- A path as seen from a folder is as long as both together, or longer by a slash. -/
theorem length_join (left : Path) {right : Path} (relative : right.isAbsolute = false) :
    left.bytes.length + right.bytes.length ≤ (left.join right).bytes.length ∧
      (left.join right).bytes.length ≤ left.bytes.length + right.bytes.length + 1 := by
  simp only [join, relative, Bool.false_eq_true, if_false]
  split
  · simp
  · rw [List.length_append, List.length_cons]
    omega

theorem nul_not_mem_join {left right : Path} (leftFree : 0 ∉ left.bytes)
    (rightFree : 0 ∉ right.bytes) : 0 ∉ (left.join right).bytes := by
  simp only [join]
  split
  · exact rightFree
  · split <;> simp [leftFree, rightFree, slash]

/-! ## The filler at the end -/

theorem dropTrailing_append_dropTrailing {α : Type} (test : α → Bool) (front back : List α) :
    dropTrailing test (front ++ dropTrailing test back) = dropTrailing test (front ++ back) := by
  simp only [dropTrailing, List.reverse_append, List.reverse_reverse]
  congr 1
  induction back.reverse with
  | nil => rfl
  | cons last rest ih =>
      by_cases dropped : test last = true
      · simpa [dropped] using ih
      · simp [dropped]

theorem mem_of_mem_dropTrailing {α : Type} {test : α → Bool} {list : List α} {element : α}
    (member : element ∈ dropTrailing test list) : element ∈ list := by
  have kept := (List.dropWhile_sublist test).mem (List.mem_reverse.mp member)
  exact List.mem_reverse.mp kept

theorem mem_segments_of_mem_significant (member : segment ∈ path.significant) :
    segment ∈ path.segments := by
  unfold significant at member
  split at member
  · cases member
  · next first rest shape =>
      rw [shape]
      simp only at member
      split at member
      · cases member
      · exact List.mem_cons.mpr ((List.mem_cons.mp member).imp_right mem_of_mem_dropTrailing)

/-- A relative path does not start with an empty segment that something follows. -/
theorem head_prior_ne_nil {root : Path} {first : Bytes} {rest : List Bytes}
    (relative : root.isAbsolute = false) (shape : root.prior = first :: rest) : first ≠ [] := by
  rintro rfl
  obtain ⟨bytes⟩ := root
  cases bytes with
  | nil => simp [prior] at shape
  | cons byte more =>
      have differs : (byte == slash) = false := by simpa [isAbsolute] using relative
      have start : ∃ tail, segments ⟨byte :: more⟩ = [] :: tail := by
        rcases segments_eq_prior ⟨byte :: more⟩ with same | longer
        · exact ⟨rest, by rw [same, shape]⟩
        · exact ⟨rest ++ [[]], by rw [longer, shape, List.cons_append]⟩
      obtain ⟨tail, start⟩ := start
      rw [segments, relative, if_neg Bool.false_ne_true, List.splitOn_cons_eq_if_modifyHead,
        differs] at start
      cases parts : List.splitOn slash more <;> simp [List.modifyHead, parts] at start

/-- What is significant of a relative path does not start with an empty segment. -/
theorem head?_significant_ne (relative : path.isAbsolute = false) :
    path.significant.head? ≠ some [] := by
  intro starts
  unfold significant at starts
  split at starts
  · cases starts
  · next first rest shape =>
      simp only at starts
      split at starts
      · cases starts
      · next visible =>
          obtain rfl : first = [] := Option.some.inj starts
          -- Only the empty path is relative and starts with an empty segment.
          have single : rest = [] := by
            rcases segments_eq_prior path with same | more
            · exact absurd rfl (head_prior_ne_nil relative (same.symm.trans shape))
            · cases before : path.prior with
              | nil =>
                  rw [shape, before] at more
                  exact (List.cons.inj more).2
              | cons head tail =>
                  rw [shape, before] at more
                  exact absurd (List.cons.inj more).1.symm (head_prior_ne_nil relative before)
          exact visible (by simp [single, dropTrailing])

end Path
end CardKeeper
