import CardKeeper.Text.Lowercase
import CardKeeper.Text.Utf8

/-!
# Paths

A path is a byte string in which slashes separate segments.  The operations here are lexical: they
look at the text of a path and never at a volume.  An empty segment, and a single dot anywhere but
at the start of a relative path, is filler: it does not name a component.  Joining keeps the text
of both sides, while `relativeTo` compares components and then returns the text that is left.
-/

namespace CardKeeper

/-- A path as written, in bytes. -/
structure Path where
  /-- The bytes of the path. -/
  bytes : Bytes
  deriving DecidableEq

/-- What a segment of a path stands for. -/
inductive Component where
  /-- The top folder, at the start of an absolute path. -/
  | root
  /-- The folder itself, at the start of a relative path. -/
  | here
  /-- The folder above. -/
  | up
  /-- An entry of a folder. -/
  | name (bytes : Bytes)
  deriving DecidableEq

namespace Path

/-- The separator of segments. -/
abbrev slash : UInt8 := 0x2F

/-- The byte that sets off an extension. -/
abbrev dot : UInt8 := 0x2E

/-- The path written as a text. -/
def ofText (text : String) : Path :=
  ⟨Utf8.encode text⟩

/-- The text that shows a path. -/
def display (path : Path) : String :=
  Utf8.display path.bytes

/-- Whether a path starts from the top folder. -/
def isAbsolute (path : Path) : Bool :=
  path.bytes.head? == some slash

/-- The segments of a path, after the slash that makes it absolute. -/
def segments (path : Path) : List Bytes :=
  (if path.isAbsolute then path.bytes.tail else path.bytes).splitOn slash

/-- Whether a segment names no component. -/
def isFiller (segment : Bytes) : Bool :=
  segment == [] || segment == [dot]

/-- A list without the elements at its end that satisfy the test. -/
def dropTrailing {α : Type} (test : α → Bool) (list : List α) : List α :=
  (list.reverse.dropWhile test).reverse

/-- The segments of a path up to the last one that names a component. -/
def significant (path : Path) : List Bytes :=
  match path.segments with
  | [] => []
  | first :: rest =>
      let kept := dropTrailing isFiller rest
      if kept.isEmpty && (first.isEmpty || (path.isAbsolute && isFiller first)) then []
      else first :: kept

/-- The path with these segments. -/
def ofSegments (absolute : Bool) (list : List Bytes) : Path :=
  ⟨(if absolute then [slash] else []) ++ [slash].intercalate list⟩

/-- The component that a segment other than the first of a relative path stands for. -/
def segmentComponent? (segment : Bytes) : Option Component :=
  if isFiller segment then none
  else if segment == [dot, dot] then some .up
  else some (.name segment)

/-- The components of a path, from the left. -/
def components (path : Path) : List Component :=
  if path.isAbsolute then .root :: path.segments.filterMap segmentComponent?
  else
    match path.segments with
    | [] => []
    | first :: rest =>
        (if first == [dot] then [.here] else (segmentComponent? first).toList) ++
          rest.filterMap segmentComponent?

/-- The path of `right` as seen from `left`; an absolute path stays as it is. -/
def join (left right : Path) : Path :=
  if right.isAbsolute then right
  else if left.bytes.isEmpty || left.bytes.getLast? == some slash then ⟨left.bytes ++ right.bytes⟩
  else ⟨left.bytes ++ slash :: right.bytes⟩

/-- The path of an entry, given by its bytes, of the folder at a path. -/
def entry (folder : Path) (name : Bytes) : Path :=
  folder.join ⟨name⟩

/-- The path of an entry, given by its text, of the folder at a path. -/
def child (folder : Path) (name : String) : Path :=
  folder.join (ofText name)

/-- The path of the folder that holds the last component; the top folder and the empty path have
none. -/
def parent? (path : Path) : Option Path :=
  match path.significant with
  | [] => none
  | list =>
      let above := ofSegments path.isAbsolute list.dropLast
      some (ofSegments path.isAbsolute above.significant)

/-- The last component, if it is a name. -/
def fileName? (path : Path) : Option Bytes :=
  match path.significant.getLast? with
  | some segment => if isFiller segment || segment == [dot, dot] then none else some segment
  | none => none

/-- A name cut at its last dot: the stem, and the extension if there is one.  A dot at the very
start sets off no extension. -/
def splitName (name : Bytes) : Bytes × Option Bytes :=
  let after := (name.reverse.takeWhile (· != dot)).reverse
  let before := name.take (name.length - after.length - 1)
  if after.length = name.length || before.isEmpty then (name, none) else (before, some after)

/-- The name at the end of a path without its extension. -/
def stem? (path : Path) : Option Bytes :=
  path.fileName?.map fun name => (splitName name).1

/-- The extension of the name at the end of a path. -/
def extension? (path : Path) : Option Bytes :=
  path.fileName?.bind fun name => (splitName name).2

/-- The extension of a path in lower case, if it is text. -/
def lowerExtension? (path : Path) : Option String :=
  (path.extension?.bind Utf8.decode?).map Text.lowercase

/-- Whether a path has this extension up to the case of ASCII letters. -/
def hasExtension (path : Path) (extension : String) : Bool :=
  match path.extension?.bind Utf8.decode? with
  | some own => Text.sameAsciiCase own extension
  | none => false

/-- Put an extension after the stem of the name at the end of a path. -/
def setExtension (path : Path) (extension : String) : Path :=
  match path.fileName? with
  | none => path
  | some name =>
      let whole := (ofSegments path.isAbsolute path.significant).bytes
      let kept := whole.take (whole.length - (name.length - (splitName name).1.length))
      ⟨kept ++ dot :: Utf8.encode extension⟩

/-- Replace the extension of the name at the end of a path, or add one.  As many bytes as the old
extension has are taken off the end of the text before the new one is put after the stem. -/
def withExtension (path : Path) (extension : String) : Path :=
  match path.extension? with
  | none => path.setExtension extension
  | some old => setExtension ⟨path.bytes.take (path.bytes.length - old.length)⟩ extension

/-- The segments after the first `count` that are not filler. -/
def dropComponents : Nat → List Bytes → List Bytes
  | _, [] => []
  | 0, list => list.dropWhile isFiller
  | count + 1, segment :: rest =>
      if isFiller segment then dropComponents (count + 1) rest else dropComponents count rest

/-- What is left of a path after the components of a root, if it starts with them. -/
def stripRoot? (path root : Path) : Option Path :=
  if root.components.isPrefixOf path.components then
    match root.components with
    | [] => some (ofSegments path.isAbsolute path.significant)
    | .root :: more => some (ofSegments false (dropComponents more.length path.significant))
    | .here :: more => some (ofSegments false (dropComponents more.length path.significant.tail))
    | more => some (ofSegments false (dropComponents more.length path.significant))
  else none

/-- A path as seen from a root, or the path itself when it does not lie under the root. -/
def relativeTo (path root : Path) : Path :=
  (path.stripRoot? root).getD path

end Path
end CardKeeper
