import Loxeme.Report.ReadError

/-!
# Folders

The folder that a program runs in, as the files and folders in it by the names on the way to them.
A path is resolved in it as POSIX has it: name by name, with `.` for the place itself and `..` for
the one above. Above the folder nothing can be found.

* `Folder.resolve`: the place that a path leads to.
* `Folder.read`: the contents of the file at a path, or the error of opening or reading it.
-/

namespace Loxeme

/-- The files and folders in a folder. Each has the names that lead to it; a folder on the way to
an entry need not be listed itself. The contents of a listed folder are missing. -/
structure Folder where
  entries : List (List String × Option ByteArray)

namespace Folder

/-- What is at the end of a way through a folder. -/
inductive Node
  | file (content : ByteArray)
  | folder

/-- What is at the end of a way through a folder, if anything is. -/
def at? (d : Folder) (way : List String) : Option Node :=
  match d.entries.lookup way with
  | some (some content) => some (.file content)
  | some none => some .folder
  | none => if d.entries.any (way.isPrefixOf ·.1) || way.isEmpty then some .folder else none

/-- A place that a path has led to. -/
inductive Place
  /-- The end of a way through the folder, the last name first. -/
  | inside (way : List String)
  /-- A folder above, in which nothing can be found. -/
  | above
  deriving DecidableEq, Repr

/-- What is at a place. -/
def look (d : Folder) : Place → Option Node
  | .inside way => d.at? way.reverse
  | .above => some .folder

/-- The place above a place. -/
def Place.parent : Place → Place
  | .inside (_ :: way) => .inside way
  | _ => .above

/-- The most bytes that a name may have. -/
def nameLimit : Nat := 255

/-- The number of bytes from which on a path is too long. -/
def pathLimit : Nat := 4096

/-- The place that a name leads to from a folder, or the number of the system error that it ends
with: the name may be too long, or there is nothing of this name. -/
def enter (d : Folder) (place : Place) (name : String) : Except Nat Place :=
  if name.isEmpty || name == "." then .ok place
  else if name == ".." then .ok place.parent
  else if nameLimit < name.utf8ByteSize then .error 36
  else
    match place with
    | .above => .error 2
    | .inside way =>
      if (d.look (.inside (name :: way))).isSome then .ok (.inside (name :: way)) else .error 2

/-- The place at the end of a path. A name, the empty one too, leads on from folders only. -/
def resolve (d : Folder) (place : Place) : List String → Except Nat Place
  | [] => .ok place
  | name :: names =>
    match d.look place with
    | some .folder =>
      match d.enter place name with
      | .ok place => d.resolve place names
      | .error n => .error n
    | _ => .error 20

/-- The names of a path, and the place that it starts from. -/
def parsePath (path : String) : Place × List String :=
  (if path.startsWith "/" then .above else .inside [],
    (path.toList.splitOn '/').map String.ofList)

/-- The contents of the file at a path. -/
def read (d : Folder) (path : String) : Except ReadError ByteArray :=
  if path.isEmpty then .error (.ofErrno 2)
  else if pathLimit ≤ path.utf8ByteSize then .error (.ofErrno 36)
  else
    let (place, names) := parsePath path
    match d.resolve place names with
    | .error n => .error (.ofErrno n)
    | .ok place =>
      match d.look place with
      | some (.file content) => .ok content
      | some .folder => .error (.ofErrno 21)
      | none => .error (.ofErrno 2)

end Folder

end Loxeme
