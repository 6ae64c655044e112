import Mathlib
import CardKeeper.Proofs.Utf8
import CardKeeper.Tools

/-!
# What the arguments of tools say

The arguments of a tool tell all about its work, whatever the paths in them look like.  When a
picture is resized each text has its place, and a number in the text of a size or a cut ends where
its digits end.  The options of the optimizer end at the first `--`, since no option is spelled so;
what comes behind it is the paths, also those that look like options: `arguments_unambiguous`.
-/

namespace CardKeeper

/-- Parts in front of the first mark, and behind it, are the same in equal lists. -/
theorem append_cons_inj {α : Type} {mark : α} {front other back rest : List α}
    (free : mark ∉ front) (otherFree : mark ∉ other) :
    front ++ mark :: back = other ++ mark :: rest ↔ front = other ∧ back = rest := by
  induction front generalizing other with
  | nil =>
      cases other with
      | nil => simp
      | cons second more =>
          have differs : mark ≠ second := List.ne_of_not_mem_cons otherFree
          simp [differs]
  | cons first front ih =>
      have free' : mark ∉ front := List.not_mem_of_not_mem_cons free
      cases other with
      | nil =>
          have differs : mark ≠ first := List.ne_of_not_mem_cons free
          simp [differs.symm]
      | cons second more =>
          have step := ih free' (List.not_mem_of_not_mem_cons otherFree)
          simp [step, and_assoc]

theorem Path.bytes_inj {left right : Path} : left.bytes = right.bytes ↔ left = right :=
  (Path.mk.injEq left.bytes right.bytes).symm.to_iff

/-! ## Numbers in texts -/

theorem not_mem_toString {mark : Char} (other : mark.isDigit = false) (number : Nat) :
    mark ∉ (toString number).toList := by
  intro member
  rw [Nat.toString_eq_repr, Nat.toList_repr] at member
  have digit := Nat.isDigit_of_mem_toDigits (by decide) (by decide) member
  rw [other] at digit
  cases digit

theorem toList_toString_inj {left right : Nat} :
    (toString left).toList = (toString right).toList ↔ left = right := by
  rw [String.toList_inj, Nat.toString_eq_repr, Nat.toString_eq_repr]
  exact ⟨Nat.repr_injective, congrArg Nat.repr⟩

/-- A number in a text ends where its digits end. -/
theorem number_append_inj {left right : Nat} {mark : Char} {back rest : List Char}
    (other : mark.isDigit = false) :
    (toString left).toList ++ mark :: back = (toString right).toList ++ mark :: rest ↔
      left = right ∧ back = rest := by
  rw [append_cons_inj (not_mem_toString other left) (not_mem_toString other right),
    toList_toString_inj]

theorem Size.toList_text (size : Size) :
    size.text.toList = (toString size.width).toList ++ 'x' :: (toString size.height).toList := by
  simp [Size.text]

/-- The text of a size tells its numbers. -/
theorem Size.text_inj {left right : Size} : left.text = right.text ↔ left = right := by
  rw [← String.toList_inj, Size.toList_text, Size.toList_text, number_append_inj (by decide),
    toList_toString_inj, Size.mk.injEq]

theorem Crop.toList_text (crop : Crop) :
    crop.text.toList = (toString crop.width).toList ++ 'x' :: ((toString crop.height).toList ++
      '+' :: ((toString crop.x).toList ++ '+' :: (toString crop.y).toList)) := by
  simp [Crop.text]

/-- The text of a cut tells its numbers. -/
theorem Crop.text_inj {left right : Crop} : left.text = right.text ↔ left = right := by
  rw [← String.toList_inj, Crop.toList_text, Crop.toList_text, number_append_inj (by decide),
    number_append_inj (by decide), number_append_inj (by decide), toList_toString_inj,
    Crop.mk.injEq]

namespace Programs

variable {source target otherSource otherTarget : Path} {crop otherCrop : Option Crop}
  {size otherSize : Size} {paths otherPaths : List Path} {options otherOptions : OptimizeOptions}

/-! ## Resizing -/

/-- The arguments that cut a rectangle out of a picture, if there is one to cut out. -/
def cutArguments : Option Crop → List Bytes
  | some crop => [Utf8.encode "-crop", Utf8.encode crop.text]
  | none => []

/-- The arguments that bring a picture to a size. -/
def frameArguments (size : Size) : List Bytes :=
  ["-scale", size.text, "-background", "transparent", "-gravity", "center", "-extent",
    size.text].map Utf8.encode

theorem resizeArguments_eq (source target : Path) (crop : Option Crop) (size : Size) :
    resizeArguments source target crop size =
      source.bytes :: (cutArguments crop ++ (frameArguments size ++ [target.bytes])) := by
  cases crop <;> rfl

theorem length_frameArguments (size : Size) : (frameArguments size).length = 8 := by
  simp [frameArguments]

theorem length_resizeArguments (source target : Path) (crop : Option Crop) (size : Size) :
    (resizeArguments source target crop size).length = (cutArguments crop).length + 10 := by
  simp [resizeArguments_eq, length_frameArguments]

theorem cutArguments_inj : cutArguments crop = cutArguments otherCrop ↔ crop = otherCrop := by
  cases crop <;> cases otherCrop <;> simp [cutArguments, Utf8.encode_inj, Crop.text_inj]

theorem frameArguments_inj : frameArguments size = frameArguments otherSize ↔ size = otherSize := by
  simp [frameArguments, Utf8.encode_inj, Size.text_inj]

/-- Each text of a resize is found by counting: two more arguments stand behind the source if there
is a cut, and behind these as many as ever. -/
theorem resizeArguments_inj :
    resizeArguments source target crop size =
        resizeArguments otherSource otherTarget otherCrop otherSize ↔
      source = otherSource ∧ target = otherTarget ∧ crop = otherCrop ∧ size = otherSize := by
  constructor
  · intro same
    have lengths := congrArg List.length same
    rw [length_resizeArguments, length_resizeArguments, Nat.add_right_cancel_iff] at lengths
    rw [resizeArguments_eq, resizeArguments_eq] at same
    obtain ⟨first, behind⟩ := List.cons.inj same
    obtain ⟨cuts, behind⟩ := List.append_inj behind lengths
    obtain ⟨sizes, last⟩ := List.append_inj behind
      ((length_frameArguments size).trans (length_frameArguments otherSize).symm)
    exact ⟨Path.bytes_inj.mp first, Path.bytes_inj.mp (List.singleton_inj.mp last),
      cutArguments_inj.mp cuts, frameArguments_inj.mp sizes⟩
  · rintro ⟨rfl, rfl, rfl, rfl⟩
    rfl

/-! ## Optimizing -/

/-- The argument behind which the optimizer takes every other one for a path. -/
def optionsEnd : Bytes := Utf8.encode "--"

/-- The options of the optimizer, each with whether it is set. -/
def settings (options : OptimizeOptions) : List (String × Bool) :=
  [("--fast", options.fast), ("--quiet", options.quiet), ("--strip", options.strip)]

/-- The options of the optimizer that are chosen, as it is given them. -/
def chosen (options : OptimizeOptions) : List Bytes :=
  ((settings options).filter Prod.snd).map fun setting => Utf8.encode setting.1

theorem optimizeArguments_eq (paths : List Path) (options : OptimizeOptions) :
    optimizeArguments paths options = chosen options ++ optionsEnd :: paths.map Path.bytes := by
  have flags : (optimizeFlags options).map Utf8.encode = chosen options := by
    obtain ⟨fast, quiet, strip⟩ := options
    cases fast <;> cases quiet <;> cases strip <;> rfl
  rw [optimizeArguments, List.map_append, flags, List.append_assoc]
  rfl

theorem optionsEnd_not_mem_chosen (options : OptimizeOptions) : optionsEnd ∉ chosen options := by
  intro member
  obtain ⟨setting, among, same⟩ := List.mem_map.mp member
  have spelled : setting.1 = "--" := Utf8.encode_injective same
  have listed := (List.mem_filter.mp among).1
  simp only [settings, List.mem_cons, List.not_mem_nil, or_false] at listed
  rcases listed with rfl | rfl | rfl <;> simp at spelled

/-- The arguments are cut at the first `--` into the options and the paths. -/
theorem optimizeArguments_cut_iff {front back : List Bytes} :
    optimizeArguments paths options = front ++ optionsEnd :: back ∧ optionsEnd ∉ front ↔
      front = chosen options ∧ back = paths.map Path.bytes := by
  rw [optimizeArguments_eq]
  constructor
  · rintro ⟨cut, free⟩
    obtain ⟨options, paths⟩ := (append_cons_inj (optionsEnd_not_mem_chosen options) free).mp cut
    exact ⟨options.symm, paths.symm⟩
  · rintro ⟨rfl, rfl⟩
    exact ⟨rfl, optionsEnd_not_mem_chosen options⟩

theorem chosen_inj : chosen options = chosen otherOptions ↔ options = otherOptions := by
  obtain ⟨fast, quiet, strip⟩ := options
  obtain ⟨otherFast, otherQuiet, otherStrip⟩ := otherOptions
  revert fast quiet strip otherFast otherQuiet otherStrip
  decide

theorem optimizeArguments_inj :
    optimizeArguments paths options = optimizeArguments otherPaths otherOptions ↔
      paths = otherPaths ∧ options = otherOptions := by
  have bytes : Function.Injective Path.bytes := fun _ _ => Path.bytes_inj.mp
  rw [optimizeArguments_eq, optimizeArguments_eq, append_cons_inj (optionsEnd_not_mem_chosen _)
    (optionsEnd_not_mem_chosen _), chosen_inj, bytes.list_map.eq_iff, and_comm]

/-- The arguments tell what a tool is to do, for all paths.  Those of a resize are twelve exactly if
there is a cut, and the texts of a cut and of a size tell their numbers.  Those of the optimizer are
the chosen options in front of the first `--` and the paths, in order, behind it. -/
theorem arguments_unambiguous :
    (∀ source target crop size otherSource otherTarget otherCrop otherSize,
      resizeArguments source target crop size =
          resizeArguments otherSource otherTarget otherCrop otherSize ↔
        source = otherSource ∧ target = otherTarget ∧ crop = otherCrop ∧ size = otherSize) ∧
    (∀ source target crop size,
      (resizeArguments source target crop size).length = 12 ↔ crop.isSome = true) ∧
    (∀ left right : Crop, left.text = right.text ↔ left = right) ∧
    (∀ left right : Size, left.text = right.text ↔ left = right) ∧
    (∀ paths options otherPaths otherOptions,
      optimizeArguments paths options = optimizeArguments otherPaths otherOptions ↔
        paths = otherPaths ∧ options = otherOptions) ∧
    ∀ paths options front back,
      optimizeArguments paths options = front ++ optionsEnd :: back ∧ optionsEnd ∉ front ↔
        front = chosen options ∧ back = paths.map Path.bytes := by
  refine ⟨fun _ _ _ _ _ _ _ _ => resizeArguments_inj, fun source target crop size => ?_,
    fun _ _ => Crop.text_inj, fun _ _ => Size.text_inj, fun _ _ _ _ => optimizeArguments_inj,
    fun _ _ _ _ => optimizeArguments_cut_iff⟩
  rw [length_resizeArguments]
  cases crop <;> simp [cutArguments]

example : optimizeArguments [.ofText "--", .ofText "--fast"] ⟨false, true, false⟩ =
    ["--quiet", "--", "--", "--fast"].map Utf8.encode := by decide

end Programs
end CardKeeper
