import CardKeeper.Proofs.Path.Filler

/-!
# Paths under a root

Names put behind a root one after the other come back, joined by slashes, when the path is seen
from the root: `relativeTo_below`.  The text of the root does not matter for that, nor what bytes
the names have.  A path that does not lie under a root is seen as it is.  Paths come in the order of
their components, and those made of names in the order of the names: `precedes_ofSegments`.
-/

namespace CardKeeper
namespace Path

/-- The path of a folder with names, given by their bytes, put behind it one after the other. -/
def below (folder : Path) (names : List Bytes) : Path :=
  names.foldl entry folder

/-- The path of an entry of an entry, and so on, of the folder at a path. -/
def descend (folder : Path) (names : List Name) : Path :=
  names.foldl (fun folder name => folder.entry name.bytes) folder

theorem descend_nil (folder : Path) : folder.descend [] = folder := rfl

theorem descend_cons (folder : Path) (name : Name) (rest : List Name) :
    folder.descend (name :: rest) = (folder.entry name.bytes).descend rest := rfl

theorem nul_not_mem_descend {folder : Path} (free : 0 ∉ folder.bytes) (names : List Name) :
    0 ∉ (folder.descend names).bytes := by
  induction names generalizing folder with
  | nil => exact free
  | cons name rest ih => exact ih (nul_not_mem_join free name.nul_not_mem)

/-- Behind a name, each further name stands behind a slash. -/
theorem bytes_descend (front : Bytes) (name : Name) (names : List Name) :
    ((⟨front ++ name.bytes⟩ : Path).descend names).bytes =
      front ++ name.bytes ++ names.flatMap fun next => slash :: next.bytes := by
  induction names generalizing front name with
  | nil => simp [descend]
  | cons first rest ih =>
      have behind : (⟨front ++ name.bytes⟩ : Path).entry first.bytes =
          ⟨front ++ name.bytes ++ [slash] ++ first.bytes⟩ := by
        rw [entry_append_name front name first.slash_not_mem]
        simp
      rw [descend_cons, behind, ih, List.flatMap_cons]
      simp

theorem descend_eq_below (folder : Path) (names : List Name) :
    folder.descend names = folder.below (names.map Name.bytes) :=
  List.foldl_map.symm

/-! ## Names behind a root -/

variable {names : List Bytes}

theorem below_cons (folder : Path) (name : Bytes) (rest : List Bytes) :
    folder.below (name :: rest) = (folder.entry name).below rest := rfl

theorem isAbsolute_below (folder : Path) (proper : ∀ name ∈ names, Names name) :
    (folder.below names).isAbsolute = folder.isAbsolute := by
  induction names generalizing folder with
  | nil => rfl
  | cons name rest ih =>
      obtain ⟨here, later⟩ := List.forall_mem_cons.mp proper
      rw [below_cons, ih _ later, isAbsolute_entry folder here.plain]

/-- The path of an entry has one more component: its name. -/
theorem components_entry (folder : Path) {name : Bytes} (proper : Names name) :
    (folder.entry name).components = folder.components ++ [.name name] := by
  rw [← padded_nil, components_padded proper .nil, components_eq_prior]

theorem components_below (folder : Path) (proper : ∀ name ∈ names, Names name) :
    (folder.below names).components = folder.components ++ names.map .name := by
  induction names generalizing folder with
  | nil => simp [below]
  | cons name rest ih =>
      obtain ⟨here, later⟩ := List.forall_mem_cons.mp proper
      rw [below_cons, ih _ later, components_entry folder here]
      simp

theorem segments_below (folder : Path) (proper : ∀ name ∈ names, Names name)
    (some : names ≠ []) : (folder.below names).segments = folder.prior ++ names := by
  induction names generalizing folder with
  | nil => exact absurd rfl some
  | cons name rest ih =>
      obtain ⟨here, later⟩ := List.forall_mem_cons.mp proper
      have ends := segments_entry folder here.plain
      rw [below_cons]
      by_cases last : rest = []
      · subst last
        exact ends
      · rw [ih _ later last, prior_of_ne_nil ends here.ne_nil]
        simp

/-- Every segment of a path that was put together from a root and names is significant. -/
theorem significant_below (folder : Path) (proper : ∀ name ∈ names, Names name)
    (some : names ≠ []) : (folder.below names).significant = folder.prior ++ names := by
  have split : folder.prior ++ names =
      (folder.prior ++ names.dropLast) ++ [names.getLast some] := by
    rw [List.append_assoc, List.dropLast_concat_getLast]
  have ends := segments_below folder proper some
  rw [split] at ends ⊢
  exact significant_of_visible ends (proper _ (List.getLast_mem some)).visible

theorem segmentComponent?_of_visible {segment : Bytes} (visible : isFiller segment = false) :
    ∃ component, segmentComponent? segment = some component ∧ component ≠ .root ∧
      component ≠ .here := by
  by_cases up : segment = [dot, dot]
  · subst up
    exact ⟨.up, rfl, nofun, nofun⟩
  · exact ⟨.name segment, by simp [segmentComponent?, visible, up], nofun, nofun⟩

/-- Dropping as many components as segments hold leaves what comes behind them. -/
theorem dropComponents_append (front : List Bytes) {back : List Bytes}
    (visible : ∀ segment ∈ back, isFiller segment = false) :
    dropComponents (front.filterMap segmentComponent?).length (front ++ back) = back := by
  induction front with
  | nil =>
      cases back with
      | nil => rfl
      | cons first rest => simp [dropComponents, visible first List.mem_cons_self]
  | cons segment rest ih =>
      by_cases filler : isFiller segment = true
      · have none : segmentComponent? segment = none := by simp [segmentComponent?, filler]
        rw [List.filterMap_cons_none none]
        cases count : (rest.filterMap segmentComponent?).length with
        | zero =>
            have dropped : (rest ++ back).dropWhile isFiller = back := by
              rw [count] at ih
              cases whole : rest ++ back <;> simpa [dropComponents, whole] using ih
            simpa [dropComponents, filler] using dropped
        | succ more =>
            rw [count] at ih
            simpa [dropComponents, filler] using ih
      · obtain ⟨component, found, -⟩ := segmentComponent?_of_visible (eq_false_of_ne_true filler)
        rw [List.filterMap_cons_some found]
        simpa [dropComponents, filler] using ih

theorem componentsOf_cons {first : Bytes} (other : first ≠ [dot]) (rest : List Bytes) :
    componentsOf false (first :: rest) = (first :: rest).filterMap segmentComponent? := by
  simp only [componentsOf, Bool.false_eq_true, if_false, beq_iff_eq, other, List.filterMap_cons]
  cases segmentComponent? first <;> rfl

/-- Of a root that starts with a name or leads up, all components are dropped. -/
theorem stripRoot?_of_visible {path root : Path} {first : Bytes} {rest : List Bytes}
    (own : root.components = (first :: rest).filterMap segmentComponent?)
    (visible : isFiller first = false)
    (under : root.components.isPrefixOf path.components = true) :
    path.stripRoot? root =
      some (ofSegments false (dropComponents root.components.length path.significant)) := by
  obtain ⟨component, start, notRoot, notHere⟩ := segmentComponent?_of_visible visible
  rw [List.filterMap_cons_some start] at own
  rw [stripRoot?, if_pos under, own]
  cases component with
  | root => exact absurd rfl notRoot
  | here => exact absurd rfl notHere
  | up => rfl
  | name => rfl

theorem stripRoot?_below (root : Path) (proper : ∀ name ∈ names, Names name)
    (some : names ≠ []) : (root.below names).stripRoot? root = .some (ofSegments false names) := by
  have under : root.components.isPrefixOf (root.below names).components = true := by
    rw [components_below root proper]
    exact List.isPrefixOf_iff_prefix.mpr (List.prefix_append _ _)
  have whole := significant_below root proper some
  have dropped (front : List Bytes) :=
    dropComponents_append front fun name member => (proper name member).visible
  have own := components_eq_prior root
  cases absolute : root.isAbsolute with
  | true =>
      rw [absolute] at own
      rw [stripRoot?, if_pos under, own, whole]
      exact congrArg (fun left => Option.some (ofSegments false left)) (dropped root.prior)
  | false =>
      rw [absolute] at own
      cases shape : root.prior with
      | nil =>
          rw [shape] at own whole
          rw [stripRoot?, if_pos under, own, whole, isAbsolute_below root proper, absolute]
          rfl
      | cons first rest =>
          rw [shape] at own whole
          by_cases here : first = [dot]
          · subst here
            rw [stripRoot?, if_pos under, own, whole]
            exact congrArg (fun left => Option.some (ofSegments false left)) (dropped rest)
          · have visible : isFiller first = false := by
              simp [isFiller, here, head_prior_ne_nil absolute shape]
            rw [componentsOf_cons here] at own
            rw [stripRoot?_of_visible own visible under, whole, own, dropped]

/-- Names put behind a root come back, joined by slashes, when the path is seen from the root. -/
theorem relativeTo_below (root : Path) (proper : ∀ name ∈ names, Names name)
    (some : names ≠ []) : (root.below names).relativeTo root = ofSegments false names := by
  simp [relativeTo, stripRoot?_below root proper some]

/-- A path that does not start with the components of a root is seen from it as it is. -/
theorem relativeTo_of_not_prefix {path root : Path}
    (apart : ¬ root.components <+: path.components) : path.relativeTo root = path := by
  simp [relativeTo, stripRoot?, List.isPrefixOf_iff_prefix, apart]

/-! ## Entries by their names -/

theorem proper_of_names (names : List Name) : ∀ name ∈ names.map Name.bytes, Names name := by
  intro bytes member
  obtain ⟨name, -, rfl⟩ := List.mem_map.mp member
  exact ⟨name.slash_not_mem, name.isFiller_bytes, name.ne_up⟩

theorem isAbsolute_descend (folder : Path) (names : List Name) :
    (folder.descend names).isAbsolute = folder.isAbsolute := by
  rw [descend_eq_below, isAbsolute_below folder (proper_of_names names)]

theorem segments_descend (folder : Path) {names : List Name} (some : names ≠ []) :
    (folder.descend names).segments = folder.prior ++ names.map Name.bytes := by
  rw [descend_eq_below, segments_below folder (proper_of_names names) (by simpa using some)]

theorem relativeTo_descend (root : Path) {names : List Name} (some : names ≠ []) :
    (root.descend names).relativeTo root = ofSegments false (names.map Name.bytes) := by
  rw [descend_eq_below, relativeTo_below root (proper_of_names names) (by simpa using some)]

theorem slash_not_mem_names (names : List Name) :
    ∀ segment ∈ names.map Name.bytes, slash ∉ segment :=
  fun segment member => (proper_of_names names segment member).plain

theorem isAbsolute_ofSegments (names : List Name) :
    (ofSegments false (names.map Name.bytes)).isAbsolute = false := by
  refine isAbsolute_ofSegments_of_plain false (slash_not_mem_names names) fun _ => ?_
  cases names with
  | nil => simp
  | cons name rest => simp [name.ne_nil]

theorem segments_ofSegments {names : List Name} (some : names ≠ []) :
    (ofSegments false (names.map Name.bytes)).segments = names.map Name.bytes := by
  rw [segments_ofSegments_of_plain false (slash_not_mem_names names), if_neg (by simpa using some)]
  rintro -
  cases names with
  | nil => exact absurd rfl some
  | cons name rest => simp [name.ne_nil]

/-- The components of names joined by slashes are the names. -/
theorem components_ofSegments (names : List Name) :
    (ofSegments false (names.map Name.bytes)).components =
      names.map fun name => .name name.bytes := by
  cases names with
  | nil => rfl
  | cons name rest =>
      have components : (rest.map Name.bytes).filterMap segmentComponent? =
          rest.map fun name => Component.name name.bytes := by
        rw [List.filterMap_map]
        simp
      rw [components_eq, segments_ofSegments (List.cons_ne_nil name rest), isAbsolute_ofSegments]
      simp [componentsOf, name.ne_dot, components]

end Path

/-! ## The order of paths -/

namespace Component

/-- What comes first among components that are not both names. -/
def rank : Component → Nat
  | .root => 0
  | .here => 1
  | .up => 2
  | .name _ => 3

/-- Whether one component comes before another; names are compared byte by byte. -/
def Precedes : Component → Component → Prop
  | .name left, .name right => left < right
  | left, right => left.rank < right.rank

theorem not_precedes_self (component : Component) : ¬ component.Precedes component := by
  cases component with
  | name bytes => exact List.lt_irrefl bytes
  | root => exact Nat.lt_irrefl _
  | here => exact Nat.lt_irrefl _
  | up => exact Nat.lt_irrefl _

end Component

namespace Path

/-- Whether one path comes before another, component by component. -/
def Precedes (left right : Path) : Prop :=
  List.Lex Component.Precedes left.components right.components

theorem not_precedes_self (path : Path) : ¬ path.Precedes path := by
  unfold Precedes
  induction path.components with
  | nil => exact fun before => nomatch before
  | cons first rest ih =>
      intro before
      cases before with
      | rel less => exact first.not_precedes_self less
      | cons less => exact ih less

/-- Names joined by slashes come in the order of the first names in which they differ. -/
theorem precedes_ofSegments (front : List Name) {left right : Name} (leftRest rightRest : List Name)
    (less : left.bytes < right.bytes) :
    (ofSegments false ((front ++ left :: leftRest).map Name.bytes)).Precedes
      (ofSegments false ((front ++ right :: rightRest).map Name.bytes)) := by
  rw [Precedes, components_ofSegments, components_ofSegments]
  induction front with
  | nil => exact .rel less
  | cons name front ih => exact .cons ih

end Path
end CardKeeper
