import CardKeeper.Volume.Walk

/-!
# Changing a volume by hand

What the owner of a card does to it: put files and folders on it, take them away and move them.
-/

namespace CardKeeper
namespace Volume

/-- The folder that segments lead to from a location, and the volume with those of the folders made
that were not there. -/
def makeFolders (volume : Volume) (here : Location) : List Bytes → Except Fault (Volume × Location)
  | [] => .ok (volume, here)
  | segment :: rest =>
      match volume.walk true linkLimit here [segment] with
      | .ok there => makeFolders volume there rest
      | .error .notFound =>
          match Name.ofBytes? segment with
          | some name =>
              makeFolders (volume.put (name :: here) (.folder Node.folderMode)) (name :: here) rest
          | none => .error .notFound
      | .error fault => .error fault

/-- The volume with a node at a path, and with the folders made that lead there. -/
def place (volume : Volume) (path : Path) (node : Node) : Except Fault Volume :=
  let segments := path.segments.filter fun segment => !Path.isFiller segment
  match segments.getLast?.bind Name.ofBytes? with
  | none => .error .notFound
  | some name =>
      (volume.makeFolders (start path volume.current) segments.dropLast).map
        fun (volume, folder) => volume.put (name :: folder) node

/-- The volume with a file at a path.  If the path leads to a file through links, it is that file
that changes. -/
def placeFile (volume : Volume) (path : Path) (mode : Nat) (content : Bytes) :
    Except Fault Volume :=
  match volume.locate true path with
  | .ok location => .ok (volume.put location (.file mode content))
  | .error _ => volume.place path (.file mode content)

/-- Whether one location is another one or lies inside of it. -/
def isWithin (outer location : Location) : Bool :=
  outer.isSuffixOf location

/-- The volume without an entry and all it holds. -/
def remove (volume : Volume) (location : Location) : Volume :=
  { volume with
    entries := volume.entries.filter fun entry => !isWithin location entry.1
    distinct := volume.distinct.sublist (List.filter_sublist.map Prod.fst) }

/-- Where a location is after a move. -/
def relocate (source target location : Location) : Location :=
  if isWithin source location then location.take (location.length - source.length) ++ target
  else location

theorem eq_append_of_isWithin {outer location : Location}
    (within : isWithin outer location = true) :
    location = location.take (location.length - outer.length) ++ outer := by
  obtain ⟨before, rfl⟩ := List.isSuffixOf_iff_suffix.mp within
  simp

theorem relocate_ne {source target left right : Location} (differ : left ≠ right)
    (leftFree : isWithin target left = false) (rightFree : isWithin target right = false) :
    relocate source target left ≠ relocate source target right := by
  have outside : ∀ before location : Location, isWithin target location = false →
      before ++ target ≠ location := by
    rintro before location free rfl
    rw [isWithin, List.isSuffixOf_iff_suffix.mpr (List.suffix_append before target)] at free
    exact Bool.noConfusion free
  unfold relocate
  split
  · next leftWithin =>
      split
      · next rightWithin =>
          intro same
          have prefixes := List.append_cancel_right same
          apply differ
          rw [eq_append_of_isWithin leftWithin, eq_append_of_isWithin rightWithin, prefixes]
      · exact outside _ _ rightFree
  · split
    · exact (outside _ _ leftFree).symm
    · exact differ

/-- The volume with an entry and all it holds moved to another location, in the place of what was
there. -/
def move (volume : Volume) (source target : Location) : Volume :=
  { volume with
    entries := (volume.entries.filter fun entry => !isWithin target entry.1).map
      fun entry => (relocate source target entry.1, entry.2)
    distinct := by
      rw [List.map_map]
      have kept : ((volume.entries.filter fun entry => !isWithin target entry.1).map
          Prod.fst).Nodup := volume.distinct.sublist (List.filter_sublist.map Prod.fst)
      rw [List.Nodup, List.pairwise_map] at kept ⊢
      refine kept.imp_of_mem fun leftMember rightMember differ => ?_
      have leftFree := (List.mem_filter.mp leftMember).2
      have rightFree := (List.mem_filter.mp rightMember).2
      exact relocate_ne differ (by simpa using leftFree) (by simpa using rightFree) }

/-- The volume without the entry at a path. -/
def removeAt (volume : Volume) (path : Path) : Except Fault Volume :=
  (volume.locate false path).map volume.remove

/-- The volume with the entry at a path moved to another path. -/
def moveAt (volume : Volume) (source target : Path) : Except Fault Volume :=
  (volume.locate false source).bind fun source =>
    let segments := target.segments.filter fun segment => !Path.isFiller segment
    match segments.getLast?.bind Name.ofBytes? with
    | none => .error .notFound
    | some name =>
        (volume.walk true linkLimit (start target volume.current) segments.dropLast).bind
          fun folder =>
            if isWithin source (name :: folder) then .error .denied
            else .ok (volume.move source (name :: folder))

end Volume
end CardKeeper
