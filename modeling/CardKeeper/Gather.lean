/-!
# Working until the first error

A list of items is worked on in order, and the first error ends the work.  The results before it
are kept.
-/

namespace CardKeeper

/-- The results of some work up to its first error, and that error. -/
structure Gathered (ε β : Type) where
  /-- The results, in order. -/
  results : List β
  /-- The error that ended the work. -/
  failure : Option ε

/-- Work on items in order until the first error. -/
def gather {ε α β : Type} (work : α → Except ε β) : List α → Gathered ε β
  | [] => ⟨[], none⟩
  | item :: rest =>
      match work item with
      | .error error => ⟨[], some error⟩
      | .ok result =>
          let more := gather work rest
          ⟨result :: more.results, more.failure⟩

end CardKeeper
