import CardKeeper.Card
import CardKeeper.Proofs.Utf8
import CardKeeper.Volume.Basic

/-!
# The path of an entry

The path of an entry ends in one more segment than the path of its folder: `segments_entry`.  The
entry's name is the path's file name.  What stands in front of the name is `prior`, the folder's
segments without the empty one that a final slash leaves.
-/

namespace CardKeeper

namespace Name

variable (name : Name)

theorem ne_nil : name.bytes ≠ [] := by
  have proper := name.proper
  simp only [isName, Bool.and_eq_true, bne_iff_ne] at proper
  exact proper.1.1.1.1

theorem ne_dot : name.bytes ≠ [Path.dot] := by
  have proper := name.proper
  simp only [isName, Bool.and_eq_true, bne_iff_ne] at proper
  exact proper.1.1.1.2

theorem ne_up : name.bytes ≠ [Path.dot, Path.dot] := by
  have proper := name.proper
  simp only [isName, Bool.and_eq_true, bne_iff_ne] at proper
  exact proper.1.1.2

theorem slash_not_mem : Path.slash ∉ name.bytes := by
  have proper := name.proper
  simp only [isName, Bool.and_eq_true, Bool.not_eq_true', List.contains_eq_mem] at proper
  simpa using proper.1.2

theorem nul_not_mem : 0 ∉ name.bytes := by
  have proper := name.proper
  simp only [isName, Bool.and_eq_true, Bool.not_eq_true', List.contains_eq_mem] at proper
  simpa using proper.2

@[simp]
theorem isFiller_bytes : Path.isFiller name.bytes = false := by
  simp [Path.isFiller, name.ne_nil, name.ne_dot]

theorem ext_bytes {left right : Name} (same : left.bytes = right.bytes) : left = right := by
  cases left
  cases right
  cases same
  rfl

@[simp]
theorem ofBytes?_bytes : ofBytes? name.bytes = some name := by
  simp [ofBytes?, name.proper]

theorem ofBytes?_eq_some_iff {bytes : Bytes} :
    ofBytes? bytes = some name ↔ bytes = name.bytes := by
  constructor
  · intro found
    simp only [ofBytes?] at found
    split at found
    · cases found
      rfl
    · cases found
  · rintro rfl
    exact name.ofBytes?_bytes

end Name

/-- Bytes in front of an ending make a name. -/
theorem isName_append {stem ending : Bytes} (slash : Path.slash ∉ stem) (nul : 0 ∉ stem)
    (proper : isName ending = true) (long : 2 < ending.length) :
    isName (stem ++ ending) = true := by
  have last := Name.slash_not_mem ⟨ending, proper⟩
  have text := Name.nul_not_mem ⟨ending, proper⟩
  have longer {short : Bytes} (few : short.length ≤ 2) : stem ++ ending ≠ short := by
    rintro rfl
    rw [List.length_append] at few
    omega
  simp [isName, slash, nul, last, text, longer]

/-- A plain name ends its hidden one. -/
theorem Card.encode_unhide_suffix (text : String) :
    Utf8.encode (Card.unhide text) <:+ Utf8.encode text := by
  unfold Card.unhide
  split
  · next rest shape =>
      simp only [Utf8.encode, shape, String.toList_ofList, Utf8.encodeChars_cons]
      exact List.suffix_append _ _
  · exact List.suffix_refl _

namespace Path

theorem mem_bytes_entry (folder : Path) {name : Bytes} {byte : UInt8} (member : byte ∈ name) :
    byte ∈ (folder.entry name).bytes := by
  simp only [entry, join]
  split
  · exact member
  · split
    · exact List.mem_append_right _ member
    · exact List.mem_append_right _ (List.mem_cons_of_mem _ member)

/-- A slash behind some text ends the last segment of the text. -/
theorem segments_append_slash {front : Bytes} (back : Bytes) (some : front ≠ []) :
    segments ⟨front ++ slash :: back⟩ = segments ⟨front⟩ ++ back.splitOn slash := by
  cases front with
  | nil => exact absurd rfl some
  | cons first more =>
      by_cases rooted : first = slash
      · simpa [segments, isAbsolute, rooted] using
          List.splitOn_append_cons_self (a := slash) more back
      · simpa [segments, isAbsolute, rooted] using
          List.splitOn_append_cons_self (a := slash) (first :: more) back

theorem segments_cons_slash (back : Bytes) : segments ⟨slash :: back⟩ = back.splitOn slash := by
  simp [segments, isAbsolute]

theorem isAbsolute_of_plain {name : Bytes} (plain : slash ∉ name) : isAbsolute ⟨name⟩ = false := by
  cases name with
  | nil => rfl
  | cons first rest =>
      have differs : first ≠ slash := fun same => plain (by simp [same])
      simp [isAbsolute, differs]

theorem segments_of_plain {name : Bytes} (plain : slash ∉ name) : segments ⟨name⟩ = [name] := by
  simp [segments, isAbsolute_of_plain plain, List.splitOn_eq_singleton plain]

/-- The segments in front of the name of an entry of the folder at a path. -/
def prior (folder : Path) : List Bytes :=
  if folder.bytes = [] then []
  else if folder.bytes.getLast? = some slash then folder.segments.dropLast
  else folder.segments

/-- A path has no more segments than stand in front of an entry, but for an empty one where the
path's text is empty or ends in a slash. -/
theorem segments_eq_prior (folder : Path) :
    folder.segments = folder.prior ∨ folder.segments = folder.prior ++ [[]] := by
  obtain ⟨bytes⟩ := folder
  by_cases nothing : bytes = []
  · subst nothing
    exact .inr rfl
  by_cases closed : bytes.getLast? = some slash
  · right
    obtain ⟨front, rfl⟩ := List.getLast?_eq_some_iff.mp closed
    simp only [prior, nothing, closed, if_false, if_true]
    by_cases top : front = []
    · subst top
      rfl
    · rw [segments_append_slash [] top, List.splitOn_nil, List.dropLast_concat]
  · left
    simp [prior, nothing, closed]

/-- The segments of a path as seen from a folder stand behind those of the folder. -/
theorem segments_join (folder : Path) {path : Path} (relative : path.isAbsolute = false) :
    (folder.join path).segments = folder.prior ++ path.segments := by
  obtain ⟨bytes⟩ := folder
  have own : path.segments = path.bytes.splitOn slash := by
    rw [segments, if_neg (by simp [relative])]
  by_cases nothing : bytes = []
  · subst nothing
    simp [join, relative, prior]
  by_cases closed : bytes.getLast? = some slash
  · obtain ⟨front, rfl⟩ := List.getLast?_eq_some_iff.mp closed
    simp only [join, relative, prior, nothing, closed, if_false, if_true, beq_self_eq_true,
      Bool.or_true, Bool.false_eq_true, List.append_assoc, List.singleton_append]
    by_cases top : front = []
    · subst top
      rw [List.nil_append, segments_cons_slash, own]
      rfl
    · rw [segments_append_slash _ top, segments_append_slash [] top, List.splitOn_nil,
        List.dropLast_concat, own]
  · have kept : bytes.isEmpty = false := by simpa using nothing
    have open_ : (bytes.getLast? == some slash) = false := by simpa using closed
    simp only [join, relative, prior, nothing, closed, kept, open_, if_false, Bool.or_self,
      Bool.false_eq_true]
    rw [segments_append_slash _ nothing, own]

theorem isAbsolute_join (folder : Path) {path : Path} (relative : path.isAbsolute = false) :
    (folder.join path).isAbsolute = folder.isAbsolute := by
  obtain ⟨bytes⟩ := folder
  cases bytes with
  | nil => simpa [join, isAbsolute] using relative
  | cons first rest =>
      simp only [join, relative, Bool.false_eq_true, if_false]
      split <;> rfl

/-- The path of an entry has one more segment: its name. -/
theorem segments_entry (folder : Path) {name : Bytes} (plain : slash ∉ name) :
    (folder.entry name).segments = folder.prior ++ [name] := by
  rw [entry, segments_join folder (isAbsolute_of_plain plain), segments_of_plain plain]

theorem isAbsolute_entry (folder : Path) {name : Bytes} (plain : slash ∉ name) :
    (folder.entry name).isAbsolute = folder.isAbsolute :=
  isAbsolute_join folder (isAbsolute_of_plain plain)

/-- What stands in front of a path as seen from a folder is the same for every path. -/
theorem exists_join_eq (folder : Path) : ∃ front, ∀ inner : Path, inner.isAbsolute = false →
    folder.join inner = ⟨front ++ inner.bytes⟩ := by
  by_cases closed : folder.bytes.isEmpty || folder.bytes.getLast? == some slash
  · exact ⟨folder.bytes, fun inner relative => by simp [join, relative, closed]⟩
  · exact ⟨folder.bytes ++ [slash], fun inner relative => by simp [join, relative, closed]⟩

/-- A path that ends in a name is told from that of an entry by a slash. -/
theorem entry_append_name (front : Bytes) (name : Name) {second : Bytes} (plain : slash ∉ second) :
    (⟨front ++ name.bytes⟩ : Path).entry second = ⟨front ++ name.bytes ++ slash :: second⟩ := by
  have unlike : name.bytes.getLast? ≠ some slash := fun ends =>
    name.slash_not_mem (List.mem_of_getLast? ends)
  simp [entry, join, isAbsolute_of_plain plain, name.ne_nil, unlike]

/-- Two names with a slash between them lead to an entry of an entry. -/
theorem join_names (folder : Path) (first second : Name) :
    folder.join ⟨first.bytes ++ slash :: second.bytes⟩ =
      (folder.entry first.bytes).entry second.bytes := by
  obtain ⟨front, same⟩ := exists_join_eq folder
  have relative : isAbsolute ⟨first.bytes ++ slash :: second.bytes⟩ = false := by
    obtain ⟨head, rest, shape⟩ := List.exists_cons_of_ne_nil first.ne_nil
    have plain := isAbsolute_of_plain first.slash_not_mem
    rw [shape] at plain ⊢
    exact plain
  have named : folder.entry first.bytes = ⟨front ++ first.bytes⟩ :=
    same _ (isAbsolute_of_plain first.slash_not_mem)
  rw [same _ relative, named, entry_append_name front first second.slash_not_mem,
    List.append_assoc]

theorem dropTrailing_concat {α : Type} {test : α → Bool} {last : α} (kept : test last = false)
    (front : List α) : dropTrailing test (front ++ [last]) = front ++ [last] := by
  simp [dropTrailing, kept]

/-- Every segment of a path is significant if the last one is no filler. -/
theorem significant_of_visible {path : Path} {front : List Bytes} {last : Bytes}
    (ends : path.segments = front ++ [last]) (visible : isFiller last = false) :
    path.significant = front ++ [last] := by
  rw [significant, ends]
  cases front with
  | nil =>
      have some : last ≠ [] := by
        rintro rfl
        cases visible
      simp [dropTrailing, some, visible]
  | cons first more =>
      simp only [List.cons_append, dropTrailing_concat visible]
      simp

theorem significant_of_segments {path : Path} {front : List Bytes} {name : Name}
    (ends : path.segments = front ++ [name.bytes]) : path.significant = front ++ [name.bytes] :=
  significant_of_visible ends name.isFiller_bytes

/-- The last segment names a file unless it leads up. -/
theorem fileName?_of_visible {path : Path} {front : List Bytes} {last : Bytes}
    (ends : path.segments = front ++ [last]) (visible : isFiller last = false) :
    path.fileName? = if last = [dot, dot] then none else some last := by
  simp [fileName?, significant_of_visible ends visible, visible]

theorem fileName?_of_segments {path : Path} {front : List Bytes} {name : Name}
    (ends : path.segments = front ++ [name.bytes]) : path.fileName? = some name.bytes := by
  rw [fileName?_of_visible ends name.isFiller_bytes, if_neg name.ne_up]

@[simp]
theorem fileName?_entry (folder : Path) (name : Name) :
    (folder.entry name.bytes).fileName? = some name.bytes :=
  fileName?_of_segments (segments_entry folder name.slash_not_mem)

/-- The components that segments stand for. -/
def componentsOf (absolute : Bool) (segments : List Bytes) : List Component :=
  if absolute then .root :: segments.filterMap segmentComponent?
  else
    match segments with
    | [] => []
    | first :: rest =>
        (if first == [dot] then [.here] else (segmentComponent? first).toList) ++
          rest.filterMap segmentComponent?

theorem components_eq (path : Path) :
    path.components = componentsOf path.isAbsolute path.segments := rfl

@[simp]
theorem segmentComponent?_name (name : Name) :
    segmentComponent? name.bytes = some (.name name.bytes) := by
  simp [segmentComponent?, name.ne_up]

theorem componentsOf_concat_empty (absolute : Bool) (segments : List Bytes) :
    componentsOf absolute (segments ++ [[]]) = componentsOf absolute segments := by
  have filler : segmentComponent? [] = none := rfl
  cases absolute with
  | true => simp [componentsOf, filler]
  | false => cases segments <;> simp [componentsOf, filler]

theorem components_eq_prior (path : Path) :
    path.components = componentsOf path.isAbsolute path.prior := by
  rw [components_eq]
  rcases segments_eq_prior path with same | more
  · rw [same]
  · rw [more, componentsOf_concat_empty]

/-- The segments of a path that does not end in a slash are in front of each of its entries. -/
theorem prior_of_ne_nil {path : Path} {front : List Bytes} {last : Bytes}
    (ends : path.segments = front ++ [last]) (some : last ≠ []) : path.prior = front ++ [last] := by
  rcases segments_eq_prior path with same | more
  · rw [← same, ends]
  · rw [more] at ends
    have lasts := congrArg List.getLast? ends
    simp only [List.getLast?_append, List.getLast?_singleton, Option.some_or] at lasts
    exact absurd (Option.some.inj lasts).symm some

theorem prior_of_segments {path : Path} {front : List Bytes} {name : Name}
    (ends : path.segments = front ++ [name.bytes]) : path.prior = front ++ [name.bytes] :=
  prior_of_ne_nil ends name.ne_nil

theorem prior_entry (folder : Path) (name : Name) :
    (folder.entry name.bytes).prior = folder.prior ++ [name.bytes] :=
  prior_of_segments (segments_entry folder name.slash_not_mem)

end Path
end CardKeeper
