import CardKeeper.Gather

/-!
# What work until the first error gives

Work that comes to its end has one result for each item, and these are all the results there are.
Work that fails has one for each item before the first that fails: `gather_eq_failed_iff`.
-/

namespace CardKeeper

variable {ε α β : Type} {work : α → Except ε β} {items : List α} {results : List β}

/-- Work comes to its end when every item has a result. -/
theorem gather_eq_iff : gather work items = ⟨results, none⟩ ↔ items.map work = results.map .ok := by
  induction items generalizing results with
  | nil => simp [gather, eq_comm]
  | cons item rest ih =>
      rw [gather, List.map_cons]
      cases done : work item with
      | error error => cases results <;> simp
      | ok result =>
          have split : gather work rest =
              ⟨(gather work rest).results, (gather work rest).failure⟩ := rfl
          cases results with
          | nil => simp
          | cons first more =>
              rw [List.map_cons, List.cons.injEq, ← ih, split]
              simp [Gathered.mk.injEq, and_assoc]

/-- Work fails at the first item that has an error, with the results of the items before it. -/
theorem gather_eq_failed_iff {error : ε} : gather work items = ⟨results, some error⟩ ↔
    ∃ earlier item later, items = earlier ++ item :: later ∧
      earlier.map work = results.map .ok ∧ work item = .error error := by
  induction items generalizing results with
  | nil => simp [gather]
  | cons item rest ih =>
      rw [gather]
      cases done : work item with
      | error cause =>
          simp only [Gathered.mk.injEq, Option.some.injEq]
          constructor
          · rintro ⟨rfl, rfl⟩
            exact ⟨[], item, rest, rfl, rfl, done⟩
          · rintro ⟨earlier, other, later, split, before, failed⟩
            cases earlier with
            | nil =>
                cases split
                cases done.symm.trans failed
                exact ⟨by simpa using before, rfl⟩
            | cons first more =>
                cases split
                cases results <;> simp [done] at before
      | ok result =>
          constructor
          · intro failed
            obtain ⟨rfl, failure⟩ := Gathered.mk.inj failed
            have whole : gather work rest = ⟨(gather work rest).results, some error⟩ := by
              rw [← failure]
            obtain ⟨earlier, other, later, split, before, failed⟩ := ih.mp whole
            exact ⟨item :: earlier, other, later, by rw [split, List.cons_append],
              by rw [List.map_cons, done, before, List.map_cons], failed⟩
          · rintro ⟨earlier, other, later, split, before, failed⟩
            cases earlier with
            | nil =>
                cases split
                cases done.symm.trans failed
            | cons first more =>
                cases split
                obtain ⟨head, tail, rfl, here, there⟩ := List.map_eq_cons_iff.mp before.symm
                cases done.symm.trans here.symm
                rw [ih.mpr ⟨more, other, later, rfl, there.symm, failed⟩]

/-- Also of work that fails, the results are those of items. -/
theorem of_mem_gather {result : β} (member : result ∈ (gather work items).results) :
    ∃ item ∈ items, work item = .ok result := by
  induction items with
  | nil => exact absurd member List.not_mem_nil
  | cons item rest ih =>
      rw [gather] at member
      cases done : work item with
      | error error => simp [done] at member
      | ok first =>
          rw [done] at member
          rcases List.mem_cons.mp member with rfl | later
          · exact ⟨item, List.mem_cons_self, done⟩
          · obtain ⟨other, among, worked⟩ := ih later
            exact ⟨other, List.mem_cons_of_mem _ among, worked⟩

theorem gather_map {γ : Type} (place : γ → α) (list : List γ) :
    gather work (list.map place) = gather (fun item => work (place item)) list := by
  induction list with
  | nil => rfl
  | cons item rest ih => simp only [List.map_cons, gather, ih]

/-- Work whose results are those of other work, seen in some way, fails where the other does. -/
theorem gather_of_map {γ : Type} {other : α → Except ε γ} {view : γ → β}
    (same : ∀ item ∈ items, work item = (other item).map view) :
    gather work items =
      ⟨(gather other items).results.map view, (gather other items).failure⟩ := by
  induction items with
  | nil => rfl
  | cons item rest ih =>
      rw [gather, gather, same item List.mem_cons_self,
        ih fun later member => same later (List.mem_cons_of_mem _ member)]
      cases other item <;> rfl

theorem gather_congr {other : α → Except ε β} (same : ∀ item ∈ items, work item = other item) :
    gather work items = gather other items := by
  have view (item : α) (member : item ∈ items) : work item = (other item).map id := by
    rw [same item member]
    cases other item <;> rfl
  rw [gather_of_map view, List.map_id]

/-- Items whose results do not count can be left out. -/
theorem gather_filter {keep : α → Bool} {counts : β → Bool}
    (idle : ∀ item, keep item = false → ∃ result, work item = .ok result ∧ counts result = false)
    (counted : ∀ item result, keep item = true → work item = .ok result → counts result = true)
    (items : List α) :
    gather work (items.filter keep) =
      ⟨(gather work items).results.filter counts, (gather work items).failure⟩ := by
  induction items with
  | nil => rfl
  | cons item rest ih =>
      cases kept : keep item with
      | true =>
          rw [List.filter_cons_of_pos kept, gather, gather]
          cases done : work item with
          | error error => rfl
          | ok result =>
              simp only [ih, List.filter_cons_of_pos (counted item result kept done)]
      | false =>
          obtain ⟨result, done, nothing⟩ := idle item kept
          rw [List.filter_cons_of_neg (by simp [kept]), gather, done, ih]
          simp only [List.filter_cons_of_neg (by simp [nothing] : ¬ counts result = true)]

/-- Every item has one of the results. -/
theorem exists_result (ended : items.map work = results.map .ok) {item : α}
    (member : item ∈ items) : ∃ result ∈ results, work item = .ok result := by
  have listed := List.mem_map_of_mem (f := work) member
  rw [ended, List.mem_map] at listed
  obtain ⟨result, found, same⟩ := listed
  exact ⟨result, found, same.symm⟩

theorem exists_results (all : ∀ item ∈ items, ∃ result, work item = .ok result) :
    ∃ results : List β, items.map work = results.map .ok := by
  induction items with
  | nil => exact ⟨[], rfl⟩
  | cons item rest ih =>
      obtain ⟨result, done⟩ := all item List.mem_cons_self
      obtain ⟨results, ended⟩ := ih fun other member => all other (List.mem_cons_of_mem _ member)
      exact ⟨result :: results, by rw [List.map_cons, done, ended, List.map_cons]⟩

/-- Items without an error have results. -/
theorem exists_results_iff : (∃ results : List β, items.map work = results.map .ok) ↔
    ∀ item ∈ items, ∀ error, work item ≠ .error error := by
  constructor
  · rintro ⟨results, ended⟩ item member error failed
    obtain ⟨result, -, done⟩ := exists_result ended member
    cases done.symm.trans failed
  · intro none
    refine exists_results fun item member => ?_
    cases done : work item with
    | ok result => exact ⟨result, rfl⟩
    | error error => exact absurd done (none item member error)

/-- Work fails with the error of the first item that has one. -/
theorem failure_eq_some_iff {error : ε} : (gather work items).failure = some error ↔
    ∃ earlier item later, items = earlier ++ item :: later ∧
      (∀ other ∈ earlier, ∀ cause, work other ≠ .error cause) ∧ work item = .error error := by
  have split : (gather work items).failure = some error ↔
      ∃ results, gather work items = ⟨results, some error⟩ := by
    constructor
    · intro failed
      exact ⟨(gather work items).results, by rw [← failed]⟩
    · rintro ⟨results, failed⟩
      rw [failed]
  rw [split]
  simp only [gather_eq_failed_iff]
  constructor
  · rintro ⟨results, earlier, item, later, parts, done, failed⟩
    exact ⟨earlier, item, later, parts, exists_results_iff.mp ⟨results, done⟩, failed⟩
  · rintro ⟨earlier, item, later, parts, before, failed⟩
    obtain ⟨results, done⟩ := exists_results_iff.mpr before
    exact ⟨results, earlier, item, later, parts, done, failed⟩

/-- The results are those of the items. -/
theorem mem_results_iff (ended : items.map work = results.map .ok) {result : β} :
    result ∈ results ↔ ∃ item ∈ items, work item = .ok result := by
  constructor
  · intro member
    have listed : (.ok result : Except ε β) ∈ results.map .ok := List.mem_map_of_mem member
    rw [← ended] at listed
    exact List.mem_map.mp listed
  · rintro ⟨item, member, found⟩
    obtain ⟨other, present, same⟩ := exists_result ended member
    rw [found] at same
    cases same
    exact present

/-- Results are related as their items are. -/
theorem pairwise_results (ended : items.map work = results.map .ok) {before : α → α → Prop}
    {after : β → β → Prop} (ordered : items.Pairwise before)
    (carried : ∀ left right first second, work left = .ok first → work right = .ok second →
      before left right → after first second) : results.Pairwise after := by
  have outcomes : (items.map work).Pairwise fun left right =>
      ∀ first second, left = .ok first → right = .ok second → after first second := by
    refine List.pairwise_map.mpr (ordered.imp fun {left right} related first second => ?_)
    exact fun isFirst isSecond => carried left right first second isFirst isSecond related
  rw [ended, List.pairwise_map] at outcomes
  exact outcomes.imp fun {first second} related => related first second rfl rfl

end CardKeeper
