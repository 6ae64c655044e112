/-!
# Sets of characters

A set of characters is a list of ranges of code points, each with both of its ends; ranges may
overlap.  Taking a range away from a set cuts its ranges, and the other operations follow from that.
What belongs to a set is said by `contains`, through which each operation is described.
-/

namespace CardKeeper
namespace Pattern

/-- Ranges of code points, each with both of its ends. -/
abbrev Charset := List (Nat × Nat)

namespace Charset

/-- Whether a code point belongs to a set. -/
def contains (set : Charset) (code : Nat) : Bool :=
  set.any fun range => range.1 ≤ code && code ≤ range.2

/-- The last code point. -/
def lastCode : Nat := 0x10FFFF

/-- The set of all characters. -/
def everything : Charset := [(0, lastCode)]

/-- The set of one character. -/
def single (character : Char) : Charset := [(character.toNat, character.toNat)]

/-- What a range is without another one. -/
def cut (first last : Nat) (range : Nat × Nat) : Charset :=
  (if range.1 < first then [(range.1, Nat.min range.2 (first - 1))] else []) ++
    if last < range.2 then [(Nat.max range.1 (last + 1), range.2)] else []

/-- A set without a range. -/
def remove (set : Charset) (range : Nat × Nat) : Charset :=
  set.flatMap (cut range.1 range.2)

/-- A set without what belongs to another one. -/
def difference (left right : Charset) : Charset :=
  right.foldl remove left

/-- All characters that do not belong to a set. -/
def complement (set : Charset) : Charset :=
  everything.difference set

/-- What belongs to two sets. -/
def intersection (left right : Charset) : Charset :=
  left.flatMap fun range => right.filterMap fun other =>
    let first := Nat.max range.1 other.1
    let last := Nat.min range.2 other.2
    if first ≤ last then some (first, last) else none

/-- What belongs to one of two sets only. -/
def symmetricDifference (left right : Charset) : Charset :=
  left.difference right ++ right.difference left

/-- Whether all members are ASCII characters. -/
def isAscii (set : Charset) : Bool :=
  set.all fun range => range.2 ≤ 0x7F

/-- A set of ASCII characters with both cases of each of its letters. -/
def withBothCases (set : Charset) : Charset :=
  let shift (letters : Nat × Nat) (move : Nat → Nat) : Charset :=
    (set.intersection [letters]).map fun range => (move range.1, move range.2)
  set ++ shift (0x61, 0x7A) (· - 0x20) ++ shift (0x41, 0x5A) (· + 0x20)

theorem contains_append (left right : Charset) (code : Nat) :
    contains (left ++ right) code = (left.contains code || right.contains code) := by
  simp [contains]

theorem contains_cut (first last code : Nat) (range : Nat × Nat) :
    contains (cut first last range) code =
      ((range.1 ≤ code && code ≤ range.2) && !(first ≤ code && code ≤ last)) := by
  rw [Bool.eq_iff_iff]
  unfold cut contains
  split <;> split <;> simp [Nat.min, Nat.max] <;> omega

theorem contains_remove (set : Charset) (range : Nat × Nat) (code : Nat) :
    (set.remove range).contains code =
      (set.contains code && !(range.1 ≤ code && code ≤ range.2)) := by
  induction set with
  | nil => rfl
  | cons first rest ih =>
      rw [remove, List.flatMap_cons, contains_append, contains_cut]
      change (_ || (remove rest range).contains code) = _
      rw [ih, contains, contains, List.any_cons, ← Bool.and_or_distrib_right]

theorem contains_difference (left right : Charset) (code : Nat) :
    (left.difference right).contains code = (left.contains code && !right.contains code) := by
  induction right generalizing left with
  | nil => simp [difference, contains]
  | cons range rest ih =>
      change (difference (left.remove range) rest).contains code = _
      rw [ih, contains_remove]
      simp [contains, Bool.and_assoc]

end Charset
end Pattern
end CardKeeper
