import CardKeeper.Proofs.Path.Segments

/-!
# Extensions

Putting an extension after a name changes the last segment of a path and nothing else
(`setExtension_eq`).  A path that gets an extension, and still ends in a name, therefore ends in a
stem and the extension (`exists_stem_of_withExtension`); and a path that ends so already keeps its
text when it gets the extension again, or ends in no name (`withExtension_eq_self`).
-/

namespace CardKeeper
namespace Path

variable {path folder : Path} {front : List Bytes} {name stem ending last : Bytes}
  {extension : String}

/-! ## The text in front of the last segment -/

/-- Nothing, or text that ends in a slash: the path of an entry is this text and the name. -/
def TakesNames (folder : Path) : Prop :=
  folder.bytes = [] ∨ folder.bytes.getLast? = some slash

theorem TakesNames.entry_eq (takes : folder.TakesNames) (plain : slash ∉ name) :
    folder.entry name = ⟨folder.bytes ++ name⟩ := by
  have relative := isAbsolute_of_plain plain
  rcases takes with nothing | closed
  · simp [entry, join, relative, nothing]
  · simp [entry, join, relative, closed]

theorem intercalate_concat {α : Type} (separator : α) (front : List (List α)) (last : List α) :
    [separator].intercalate (front ++ [last]) = front.flatMap (· ++ [separator]) ++ last := by
  induction front with
  | nil => simp [List.intercalate]
  | cons first rest ih =>
      rw [List.cons_append, List.intercalate_cons_of_ne_nil (by simp), ih]
      simp

/-- A path is an entry of the text in front of its last segment. -/
theorem exists_entry_of_segments (ends : path.segments = front ++ [last]) :
    ∃ folder : Path, folder.TakesNames ∧ path = folder.entry last := by
  have member : last ∈ path.segments := by simp [ends]
  have plain : slash ∉ last := (of_mem_segments member).1
  let folder : Path :=
    ⟨(if path.isAbsolute then [slash] else []) ++ front.flatMap (· ++ [slash])⟩
  have takes : folder.TakesNames := by
    rcases List.eq_nil_or_concat front with rfl | ⟨more, segment, rfl⟩
    · cases absolute : path.isAbsolute <;> simp [TakesNames, folder, absolute]
    · exact .inr (by simp [folder])
  refine ⟨folder, takes, ?_⟩
  rw [takes.entry_eq plain, ← ofSegments_segments path, ends]
  simp only [folder, ofSegments, intercalate_concat, List.append_assoc]

/-! ## Stems -/

/-- What stands behind the last dot is the extension. -/
theorem splitName_append (proper : stem ≠ []) (plain : dot ∉ ending) :
    splitName (stem ++ dot :: ending) = (stem, some ending) := by
  have behind : ∀ byte ∈ ending.reverse, (byte != dot) = true := by
    intro byte member
    have inside := List.mem_reverse.mp member
    have differs : byte ≠ dot := fun same => plain (same ▸ inside)
    simpa using differs
  have after : ((stem ++ dot :: ending).reverse.takeWhile (· != dot)).reverse = ending := by
    rw [List.reverse_append, List.reverse_cons, List.append_assoc,
      List.takeWhile_append_of_pos behind]
    simp
  have before : (stem ++ dot :: ending).take
      ((stem ++ dot :: ending).length - ending.length - 1) = stem := by
    have : (stem ++ dot :: ending).length - ending.length - 1 = stem.length := by simp; omega
    rw [this, List.take_left]
  have cut :
      ¬ (decide (ending.length = (stem ++ dot :: ending).length) || stem.isEmpty) = true := by
    simp [proper]
    omega
  simp only [splitName, after, before]
  rw [if_neg cut]

/-- A name is cut at its last dot, if there is a stem before it. -/
theorem of_splitName (split : splitName name = (stem, some ending)) :
    name = stem ++ dot :: ending ∧ stem ≠ [] ∧ dot ∉ ending := by
  have whole := congrArg List.reverse
    (List.takeWhile_append_dropWhile (p := (· != dot)) (l := name.reverse))
  have plain : dot ∉ (name.reverse.takeWhile (· != dot)).reverse := by
    intro member
    have passed := List.all_eq_true.mp List.all_takeWhile dot (List.mem_reverse.mp member)
    simp at passed
  rw [List.reverse_append, List.reverse_reverse] at whole
  simp only [splitName] at split
  generalize (name.reverse.takeWhile (· != dot)).reverse = after at split whole plain
  split at split
  · cases split
  · next proper =>
      simp only [Bool.or_eq_true, decide_eq_true_eq, List.isEmpty_iff, not_or] at proper
      simp only [Prod.mk.injEq, Option.some.injEq] at split
      obtain ⟨rfl, rfl⟩ := split
      refine ⟨?_, proper.2, plain⟩
      cases behind : name.reverse.dropWhile (· != dot) with
      | nil =>
          rw [behind] at whole
          exact absurd (congrArg List.length whole) proper.1
      | cons first rest =>
          have stop := List.head_dropWhile_not (· != dot) (l := name.reverse) (by simp [behind])
          have same : first = dot := by simpa [behind] using stop
          rw [behind, same, List.reverse_cons, List.append_assoc, List.singleton_append] at whole
          have count : (rest.reverse ++ dot :: after).length - after.length - 1 =
              rest.reverse.length := by
            simp only [List.length_append, List.length_cons]
            omega
          rw [← whole, count, List.take_left]

/-- A name starts with its stem, which is not empty. -/
theorem start_of_splitName (proper : name ≠ []) :
    (splitName name).1 <+: name ∧ (splitName name).1 ≠ [] := by
  simp only [splitName]
  split
  · exact ⟨List.prefix_refl _, proper⟩
  · next proper =>
      simp only [Bool.or_eq_true, List.isEmpty_iff, not_or] at proper
      exact ⟨List.take_prefix _ _, proper.2⟩

/-- A path ends in a name that is a stem and an extension. -/
def EndsIn (path : Path) (extension : Bytes) : Prop :=
  ∃ stem, stem ≠ [] ∧ path.fileName? = some (stem ++ dot :: extension)

theorem extension?_eq_some_iff :
    path.extension? = some ending ↔ path.EndsIn ending ∧ dot ∉ ending := by
  rw [extension?, Option.bind_eq_some_iff]
  constructor
  · rintro ⟨name, named, ends⟩
    obtain ⟨whole, proper, plain⟩ := of_splitName (Prod.ext rfl ends)
    exact ⟨⟨_, proper, named.trans (congrArg some whole)⟩, plain⟩
  · rintro ⟨⟨stem, proper, named⟩, plain⟩
    exact ⟨_, named, by rw [splitName_append proper plain]⟩

theorem lowerExtension?_eq_some_iff {lower : String} : path.lowerExtension? = some lower ↔
    ∃ own, path.extension? = some (Utf8.encode own) ∧ Text.lowercase own = lower := by
  simp only [lowerExtension?, Option.map_eq_some_iff, Option.bind_eq_some_iff]
  constructor
  · rintro ⟨own, ⟨bytes, found, decoded⟩, lowered⟩
    exact ⟨own, Utf8.decode?_eq_some_iff.mp decoded ▸ found, lowered⟩
  · rintro ⟨own, found, lowered⟩
    exact ⟨own, ⟨_, found, Utf8.decode?_eq_some_iff.mpr rfl⟩, lowered⟩

theorem hasExtension_eq_true_iff : path.hasExtension extension = true ↔
    ∃ own, path.extension? = some (Utf8.encode own) ∧
      Text.sameAsciiCase own extension = true := by
  unfold hasExtension
  constructor
  · intro has
    split at has
    · next own read =>
        obtain ⟨bytes, found, decoded⟩ := Option.bind_eq_some_iff.mp read
        exact ⟨own, Utf8.decode?_eq_some_iff.mp decoded ▸ found, has⟩
    · cases has
  · rintro ⟨own, found, same⟩
    have read : path.extension?.bind Utf8.decode? = some own := by
      rw [found, Option.bind_some]
      exact Utf8.decode?_eq_some_iff.mpr rfl
    rwa [read]

/-- A file name is the last significant segment. -/
theorem of_fileName? (named : path.fileName? = some name) :
    ∃ front, path.significant = front ++ [name] ∧ name ≠ [] ∧ slash ∉ name := by
  simp only [fileName?] at named
  split at named
  · next segment last =>
      obtain ⟨front, ends⟩ := List.getLast?_eq_some_iff.mp last
      split at named
      · cases named
      · next proper =>
          cases named
          refine ⟨front, ends, ?_, ?_⟩
          · rintro rfl
            exact proper rfl
          · have member : name ∈ path.significant := by simp [ends]
            exact (of_mem_segments (mem_segments_of_mem_significant member)).1
  · cases named

theorem isFiller_stem (proper : stem ≠ []) (ending : Bytes) :
    isFiller (stem ++ dot :: ending) = false := by
  cases stem with
  | nil => exact absurd rfl proper
  | cons first rest => simp [isFiller]

/-! ## Putting an extension -/

/-- The significant part of a path that ends in a name is the path of an entry. -/
theorem exists_folder_of_fileName? (named : path.fileName? = some name) :
    ∃ folder : Path, folder.TakesNames ∧
      ofSegments path.isAbsolute path.significant = folder.entry name := by
  obtain ⟨front, ends, -, -⟩ := of_fileName? named
  have plain (segment : Bytes) (member : segment ∈ path.significant) : slash ∉ segment :=
    (of_mem_segments (mem_segments_of_mem_significant member)).1
  have whole := segments_ofSegments_of_plain path.isAbsolute plain head?_significant_ne
  rw [if_neg (by simp [ends])] at whole
  exact exists_entry_of_segments (whole.trans ends)

/-- An extension takes the place of what stands behind the stem of the last name. -/
theorem setExtension_eq (named : path.fileName? = some name)
    (plain : slash ∉ Utf8.encode extension) :
    ∃ folder : Path, folder.TakesNames ∧
      ofSegments path.isAbsolute path.significant = folder.entry name ∧
      path.setExtension extension =
        folder.entry ((splitName name).1 ++ dot :: Utf8.encode extension) := by
  obtain ⟨-, -, some, plainName⟩ := of_fileName? named
  obtain ⟨folder, takes, same⟩ := exists_folder_of_fileName? named
  have written : path.setExtension extension = ⟨(folder.entry name).bytes.take
      ((folder.entry name).bytes.length - (name.length - (splitName name).1.length)) ++
        dot :: Utf8.encode extension⟩ := by
    simp only [setExtension, named, same]
  refine ⟨folder, takes, same, written.trans ?_⟩
  obtain ⟨rest, split⟩ := (start_of_splitName some).1
  generalize (splitName name).1 = stem at split
  subst split
  have plainStem : slash ∉ stem := fun member => plainName (List.mem_append_left _ member)
  have kept : (folder.bytes ++ (stem ++ rest)).length - ((stem ++ rest).length - stem.length) =
      (folder.bytes ++ stem).length := by
    simp only [List.length_append]
    omega
  rw [takes.entry_eq plainName, takes.entry_eq (by simp [plainStem, plain, dot, slash]), kept,
    ← List.append_assoc, List.take_left, List.append_assoc]

theorem withExtension_of_unnamed (unnamed : path.fileName? = none) (extension : String) :
    path.withExtension extension = path := by
  simp [withExtension, extension?, setExtension, unnamed]

/-- A path with an extension that ends in a name ends in a stem and the extension. -/
theorem exists_stem_of_withExtension (plain : slash ∉ Utf8.encode extension)
    (named : (path.withExtension extension).fileName? = some name) :
    ∃ stem, stem ≠ [] ∧ name = stem ++ dot :: Utf8.encode extension := by
  have shape (path : Path) (named : (path.setExtension extension).fileName? = some name) :
      ∃ stem, stem ≠ [] ∧ name = stem ++ dot :: Utf8.encode extension := by
    cases own : path.fileName? with
    | none => simp [setExtension, own] at named
    | some old =>
        obtain ⟨folder, takes, -, written⟩ := setExtension_eq own plain
        obtain ⟨-, -, some, plainOld⟩ := of_fileName? own
        obtain ⟨start, proper⟩ := start_of_splitName some
        have plainStem : slash ∉ (splitName old).1 := fun member => plainOld (start.subset member)
        have ends := segments_entry folder
          (show slash ∉ (splitName old).1 ++ dot :: Utf8.encode extension by
            simp [plainStem, plain, dot, slash])
        rw [written, fileName?_of_visible ends (isFiller_stem proper _)] at named
        split at named
        · cases named
        · exact ⟨_, proper, (Option.some.inj named).symm⟩
  unfold withExtension at named
  split at named
  · exact shape _ named
  · exact shape _ named

/-- A path that ends in a stem and an extension keeps its text when it gets the extension again, or
is left without a name at its end. -/
theorem withExtension_eq_self {whole : Name} (ends : path.segments = front ++ [whole.bytes])
    (split : whole.bytes = stem ++ dot :: Utf8.encode extension) (proper : stem ≠ [])
    (noDot : dot ∉ Utf8.encode extension)
    (named : (path.withExtension extension).fileName? ≠ none) :
    path.withExtension extension = path := by
  have plain : slash ∉ stem ++ dot :: Utf8.encode extension := split ▸ whole.slash_not_mem
  have plainCut : slash ∉ stem ++ [dot] := fun member => plain (by
    rcases List.mem_append.mp member with inside | last
    · exact List.mem_append_left _ inside
    · exact List.mem_append_right _ (List.mem_cons.mpr (.inl (List.mem_singleton.mp last))))
  have plainExtension : slash ∉ Utf8.encode extension := fun member =>
    plain (List.mem_append_right _ (List.mem_cons_of_mem _ member))
  have own : path.extension? = some (Utf8.encode extension) := by
    rw [extension?, fileName?_of_segments ends, Option.bind_some, split,
      splitName_append proper noDot]
  obtain ⟨folder, takes, rfl⟩ := exists_entry_of_segments ends
  rw [split, takes.entry_eq plain] at own named ⊢
  -- Without the old extension the last segment is the stem and a dot.
  have cut : (folder.bytes ++ (stem ++ dot :: Utf8.encode extension)).take
      ((folder.bytes ++ (stem ++ dot :: Utf8.encode extension)).length -
        (Utf8.encode extension).length) = folder.bytes ++ (stem ++ [dot]) := by
    have parts : folder.bytes ++ (stem ++ dot :: Utf8.encode extension) =
        folder.bytes ++ (stem ++ [dot]) ++ Utf8.encode extension := by simp
    rw [parts, List.length_append, Nat.add_sub_cancel, List.take_left]
  simp only [withExtension, own, cut, ← takes.entry_eq plainCut] at named ⊢
  have ends := segments_entry folder plainCut
  have visible := isFiller_stem proper []
  have last := fileName?_of_visible ends visible
  split at last
  · simp [setExtension, last] at named
  · obtain ⟨other, takesToo, same, written⟩ := setExtension_eq last plainExtension
    rw [significant_of_visible ends visible, ← ends, ofSegments_segments,
      takes.entry_eq plainCut, takesToo.entry_eq plainCut] at same
    have front := List.append_cancel_right (congrArg bytes same)
    rw [written, splitName_append proper (List.not_mem_nil), takesToo.entry_eq plain, ← front]

end Path
end CardKeeper
