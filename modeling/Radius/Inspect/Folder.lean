import Radius.Config.File
import Radius.Text.Parts

/-!
# `Radius.Inspect.Folder`: files by path

The inspector works in a folder that holds files, some of them perhaps in folders of their
own. A path is walked part by part, from the folder or from the root: an empty part and a dot
stay where they are, two dots lead to the folder around, and every other part names what
stands at the next place. Only a folder can be walked through, so the first part that is no
folder, or does not exist, decides on the fault (`Folder.walk`).

Outside of the folder nothing is known but what every system has: the root, some folders in
it, and `/dev/null`, which is empty and stays so. There is a folder around each folder, but
what else it holds is not known.
-/

set_option autoImplicit false

namespace Radius.Inspect

/-! ### Paths and places -/

/-- A part of a path. -/
abbrev Name : Type := List Char

/-- How many bytes a name may have. -/
def nameLimit : Nat := 255

/-- How many bytes a path may have. -/
def pathLimit : Nat := 4095

/-- Where the parts of a place begin: in a folder so many levels above the one that the
inspector works in, or in the root. -/
inductive Base
  | above (levels : Nat)
  | root
  deriving DecidableEq

/-- A place where a file or a folder may be. -/
structure Place where
  base : Base := .above 0
  names : List Name := []
  deriving DecidableEq

namespace Place

/-- The place that a name leads to. -/
def child (place : Place) (name : Name) : Place :=
  { place with names := place.names ++ [name] }

/-- The place of the folder around. The root is its own. -/
def parent (place : Place) : Place :=
  match place.names, place.base with
  | [], .above levels => { base := .above (levels + 1) }
  | [], .root => place
  | _ :: _, _ => { place with names := place.names.dropLast }

/-- The place is in the folder of the other. -/
def isIn (place other : Place) : Bool :=
  place.base = other.base && other.names.isPrefixOf place.names && place.names != other.names

end Place

/-- A path: where it begins, its parts, and whether it says that it leads to a folder. -/
structure Path where
  base : Base
  parts : List Name
  toFolder : Bool

/-- The path that a text spells. -/
def Path.ofString (text : String) : Path :=
  { base := if text.toList.head? = some '/' then .root else .above 0
    parts := (Text.fields '/' text.toList).filter (!·.isEmpty)
    toFolder := text.toList.getLast? = some '/' }

/-- The last part of a path, if that is a name. -/
def Path.name? (path : Path) : Option Name :=
  path.parts.getLast?.filter fun part => part != ['.'] && part != ['.', '.']

/-! ### Folders -/

/-- What stands at a place. -/
inductive Entry
  | file (bytes : List UInt8)
  | folder

/-- Files by their places. -/
structure Folder where
  files : List (Place × List UInt8) := []

namespace Folder

/-- The folder with these files. -/
def ofFiles (files : List (String × String)) : Folder :=
  ⟨files.map fun (path, text) => ({ names := (Path.ofString path).parts }, Utf8.ofString text)⟩

/-- The place of the file that is always empty. -/
def nullPlace : Place :=
  { base := .root, names := ["dev".toList, "null".toList] }

/-- The names of the folders that every system has in its root. -/
def systemNames : List String :=
  ["bin", "boot", "dev", "etc", "home", "lib", "media", "mnt", "opt", "proc", "root", "run",
    "sbin", "srv", "sys", "tmp", "usr", "var"]

/-- The place is that of a folder that every system has. -/
def isSystemFolder (place : Place) : Bool :=
  systemNames.any fun name => place = { base := .root, names := [name.toList] }

/-- What stands at a place. A folder that is not known by itself exists as long as a file is
in it. -/
def entry? (folder : Folder) (place : Place) : Option Entry :=
  if place = nullPlace then some (.file [])
  else
    match folder.files.lookup place with
    | some bytes => some (.file bytes)
    | none =>
      if place.names.isEmpty || isSystemFolder place || folder.files.any (·.1.isIn place) then
        some .folder
      else none

/-- What a name leads to from a place, unless it is too long for a name. -/
def named (folder : Folder) (place : Place) (name : Name) : Except FileFault (Option Entry) :=
  if nameLimit < (Utf8.encode name).length then .error .nameTooLong
  else .ok (folder.entry? (place.child name))

/-- The folder that a part leads to from a folder. -/
def step (folder : Folder) (place : Place) (part : Name) : Except FileFault Place :=
  if part = ['.'] then .ok place
  else if part = ['.', '.'] then .ok place.parent
  else
    match folder.named place part with
    | .ok (some .folder) => .ok (place.child part)
    | .ok (some (.file _)) => .error .notDirectory
    | .ok none => .error .notFound
    | .error fault => .error fault

/-- The folder that a path leads to but for its last part. -/
def walk (folder : Folder) (path : Path) : Except FileFault Place :=
  path.parts.dropLast.foldlM folder.step { base := path.base }

/-- The place and the name at the end of a path, which leads to a folder if it ends in no
name. -/
def target (folder : Folder) (path : String) : Except FileFault (Place × Name) :=
  if pathLimit < (Utf8.ofString path).length then .error .nameTooLong
  else if path.isEmpty then .error .notFound
  else
    match folder.walk (.ofString path), (Path.ofString path).name? with
    | .ok place, some name => .ok (place, name)
    | .ok _, none => .error .isDirectory
    | .error fault, _ => .error fault

/-- The bytes of the file that a path leads to. -/
def read (folder : Folder) (path : String) : Except FileFault (List UInt8) :=
  match folder.target path with
  | .error fault => .error fault
  | .ok (place, name) =>
    match folder.named place name with
    | .ok (some (.file bytes)) =>
      if (Path.ofString path).toFolder then .error .notDirectory else .ok bytes
    | .ok (some .folder) => .error .isDirectory
    | .ok none => .error .notFound
    | .error fault => .error fault

/-- The folder with a file at a place, in place of an earlier one. -/
def put (folder : Folder) (place : Place) (bytes : List UInt8) : Folder :=
  if place = nullPlace then folder
  else ⟨folder.files.filter (·.1 ≠ place) ++ [(place, bytes)]⟩

/-- The folder with the file that a path leads to. A path that says that it leads to a folder
is refused as one, whatever stands there. -/
def write (folder : Folder) (path : String) (bytes : List UInt8) : Except FileFault Folder :=
  match folder.target path with
  | .error fault => .error fault
  | .ok (place, name) =>
    if (Path.ofString path).toFolder then .error .isDirectory
    else
      match folder.named place name with
      | .ok (some .folder) => .error .isDirectory
      | .ok _ => .ok (folder.put (place.child name) bytes)
      | .error fault => .error fault

/-- The files that are in the folder itself, by their paths. -/
def contents (folder : Folder) : List (String × List UInt8) :=
  folder.files.filterMap fun (place, bytes) =>
    if place.base = .above 0 then some (String.ofList (Text.joined ['/'] place.names), bytes)
    else none

end Folder

end Radius.Inspect
