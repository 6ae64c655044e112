import CardKeeper.Path

/-!
# Volumes

A volume is a tree of folders, files and symbolic links.  It is kept as a list of entries, each
with the location it has in the tree, so that an operation says which locations it changes and
leaves every other one as it was: `node?_put` and `node?_erase`.  A location lists names from the
entry itself up to the top; the top folder has no entry of its own and is always there.

The order of the entries is the order in which folders list their names, and means nothing.
-/

namespace CardKeeper

/-- Whether bytes can name an entry of a folder. -/
def isName (bytes : Bytes) : Bool :=
  bytes != [] && bytes != [Path.dot] && bytes != [Path.dot, Path.dot] &&
    !bytes.contains Path.slash && !bytes.contains 0

/-- The name of an entry of a folder. -/
structure Name where
  /-- The bytes of the name. -/
  bytes : Bytes
  /-- They can name an entry. -/
  proper : isName bytes = true
  deriving DecidableEq

/-- The name with these bytes, if there is one. -/
def Name.ofBytes? (bytes : Bytes) : Option Name :=
  if proper : isName bytes = true then some ⟨bytes, proper⟩ else none

/-- A place in the tree: the names from an entry up to the top. -/
abbrev Location := List Name

/-- What stands at a location. -/
inductive Node where
  /-- A folder, with its permissions. -/
  | folder (mode : Nat)
  /-- A file, with its permissions and its content. -/
  | file (mode : Nat) (content : Bytes)
  /-- A symbolic link to a path. -/
  | link (target : Path)
  deriving DecidableEq

namespace Node

/-- The permissions of a folder that nobody has changed. -/
def folderMode : Nat := 0o755

/-- The permissions of a file that nobody has changed. -/
def fileMode : Nat := 0o644

/-- The permissions that new files are usually not given. -/
def usualMask : Nat := 0o022

/-- The permissions of a new file: all may read and write it, as far as a mask lets them. -/
def newMode (mask : Nat) : Nat := 0o666 ^^^ (0o666 &&& mask)

/-- Whether a node is a folder. -/
def isFolder : Node → Bool
  | .folder _ => true
  | _ => false

/-- Whether a node is a file. -/
def isFile : Node → Bool
  | .file _ _ => true
  | _ => false

/-- The permissions of a node; a link lets everybody through. -/
def mode : Node → Nat
  | .folder mode => mode
  | .file mode _ => mode
  | .link _ => 0o777

end Node

/-- A tree of folders, files and links, seen from a folder in which relative paths start. -/
structure Volume where
  /-- The entries with their locations. -/
  entries : List (Location × Node)
  /-- No two entries share a location. -/
  distinct : (entries.map Prod.fst).Nodup := by decide
  /-- The folder in which relative paths start. -/
  current : Location := []
  deriving DecidableEq

namespace Volume

/-- The volume with nothing but its top folder. -/
def empty : Volume := ⟨[], .nil, []⟩

/-- What the entry with a location is. -/
def find? (location : Location) : List (Location × Node) → Option Node
  | [] => none
  | entry :: rest => if entry.1 = location then some entry.2 else find? location rest

/-- What stands at a location. -/
def node? (volume : Volume) : Location → Option Node
  | [] => some (.folder Node.folderMode)
  | name :: folder => find? (name :: folder) volume.entries

/-- Whether a folder stands at a location. -/
def isFolderAt (volume : Volume) (location : Location) : Bool :=
  (volume.node? location).any Node.isFolder

/-- The names in a folder. -/
def names (volume : Volume) (folder : Location) : List Name :=
  volume.entries.filterMap fun entry =>
    match entry.1 with
    | name :: above => if above = folder then some name else none
    | [] => none

/-- Entries with one at a location replaced, or added at the end. -/
def putEntry (location : Location) (node : Node) :
    List (Location × Node) → List (Location × Node)
  | [] => [(location, node)]
  | entry :: rest =>
      if entry.1 = location then (location, node) :: rest
      else entry :: putEntry location node rest

theorem mem_keys_putEntry {location key : Location} {node : Node} {list : List (Location × Node)} :
    key ∈ (putEntry location node list).map Prod.fst ↔
      key = location ∨ key ∈ list.map Prod.fst := by
  induction list with
  | nil => simp [putEntry]
  | cons entry rest ih =>
      simp only [putEntry]
      split
      · next same =>
          simp only [List.map_cons, List.mem_cons, same]
          exact ⟨fun either => either.imp_right .inr, fun either => either.elim .inl id⟩
      · simp only [List.map_cons, List.mem_cons, ih]
        exact ⟨fun either => either.elim (fun here => .inr (.inl here))
          (fun there => there.imp_right .inr),
          fun either => either.elim (fun here => .inr (.inl here))
            (fun there => there.imp_right .inr)⟩

theorem nodup_putEntry {location : Location} {node : Node} {list : List (Location × Node)}
    (distinct : (list.map Prod.fst).Nodup) :
    ((putEntry location node list).map Prod.fst).Nodup := by
  induction list with
  | nil => simp [putEntry]
  | cons entry rest ih =>
      obtain ⟨fresh, tail⟩ := List.nodup_cons.mp distinct
      simp only [putEntry]
      split
      · next same => exact List.nodup_cons.mpr ⟨same ▸ fresh, tail⟩
      · next differs =>
          refine List.nodup_cons.mpr ⟨fun member => ?_, ih tail⟩
          exact (mem_keys_putEntry.mp member).elim differs fresh

/-- The volume with a node at a location, in the place of what was there. -/
def put (volume : Volume) (location : Location) (node : Node) : Volume :=
  { volume with
    entries := putEntry location node volume.entries
    distinct := nodup_putEntry volume.distinct }

/-- The volume without the entry at a location. -/
def erase (volume : Volume) (location : Location) : Volume :=
  { volume with
    entries := volume.entries.filter fun entry => entry.1 != location
    distinct := volume.distinct.sublist (List.filter_sublist.map Prod.fst) }

theorem find?_putEntry (location key : Location) (node : Node) (list : List (Location × Node)) :
    find? key (putEntry location node list) =
      if key = location then some node else find? key list := by
  induction list with
  | nil =>
      simp only [putEntry, find?]
      by_cases here : location = key <;> simp [here, eq_comm]
  | cons entry rest ih =>
      simp only [putEntry]
      split
      · next same =>
          by_cases here : key = location
          · simp [find?, here]
          · simp [find?, here, same, Ne.symm here]
      · next differs =>
          simp only [find?, ih]
          by_cases here : entry.1 = key
          · simp [← here, differs]
          · simp [here]

theorem find?_filter_ne (location key : Location) (list : List (Location × Node)) :
    find? key (list.filter fun entry => entry.1 != location) =
      if key = location then none else find? key list := by
  induction list with
  | nil => simp [find?]
  | cons entry rest ih =>
      by_cases same : entry.1 = location
      · rw [List.filter_cons_of_neg (by simp [same]), ih]
        by_cases here : key = location
        · simp [here]
        · simp [find?, same, here, Ne.symm here]
      · rw [List.filter_cons_of_pos (by simp [same])]
        simp only [find?, ih]
        by_cases here : entry.1 = key
        · simp [← here, same]
        · simp [here]

theorem node?_put (volume : Volume) (location key : Location) (node : Node)
    (below : location ≠ []) :
    (volume.put location node).node? key =
      if key = location then some node else volume.node? key := by
  cases key with
  | nil => simp [node?, Ne.symm below]
  | cons name folder => exact find?_putEntry location (name :: folder) node volume.entries

theorem node?_erase (volume : Volume) (location key : Location) (below : location ≠ []) :
    (volume.erase location).node? key =
      if key = location then none else volume.node? key := by
  cases key with
  | nil => simp [node?, Ne.symm below]
  | cons name folder => exact find?_filter_ne location (name :: folder) volume.entries

end Volume
end CardKeeper
