/-
**Folders in memory.** Files for clients that read some, without a machine.

* `Folder` — a path, and the files in it by name.
* `Place` — where a way of names has led: to the folder, to the top of the machine, to any other
  folder, of which nothing inside is known, or to a file.
* `Folder.walk` — follows a way of names.
* `Folder.read` — the bytes of a file, or the machine's words for why it cannot be read: a folder
  is no file, a file is no folder, names and ways have a greatest length, and nothing else exists.
-/

import MessageBus.Mqtt.Options

namespace MessageBus

/-- A folder with files. -/
structure Folder where
  /-- The path of the folder. -/
  path : String := ""
  /-- The files, by name. -/
  files : List (String × List UInt8) := []

namespace Folder

/-- The words of a machine for a path that leads nowhere. -/
def missing : String := "No such file or directory (os error 2)"

/-- The words of a machine for a path beyond a file. -/
def noFolder : String := "Not a directory (os error 20)"

/-- The words of a machine for a folder that is read like a file. -/
def noFile : String := "Is a directory (os error 21)"

/-- The words of a machine for a name or path that is too long. -/
def tooLong : String := "File name too long (os error 36)"

/-- The words for a path that no machine is asked about. -/
def unspeakable : String := "file name contained an unexpected NUL byte"

/-- The most bytes of a name. -/
def maxName : Nat := 255

/-- The most bytes of a path. -/
def maxPath : Nat := 4095

/-- Where a way of names has led. -/
inductive Place
  /-- The folder. -/
  | home
  /-- The top of the machine. -/
  | top
  /-- Any other folder. -/
  | elsewhere
  /-- A file. -/
  | file (bytes : List UInt8)
  deriving DecidableEq, Inhabited

/-- The folders at the top of every machine. -/
def common : List String :=
  ["bin", "boot", "dev", "etc", "home", "lib", "media", "mnt", "opt", "proc", "root", "run", "sbin",
    "srv", "sys", "tmp", "usr", "var"]

/-- Takes one step from a place; a slash at the end of a way is a step of an empty name. -/
def step (folder : Folder) (name : String) : Place → Except String Place
  | .file _ => .error noFolder
  | place =>
    if name = "" ∨ name = "." then .ok place
    else if name = ".." then .ok (if place = .top then .top else .elsewhere)
    else if maxName < name.utf8ByteSize then .error tooLong
    else match place with
      | .home => ((folder.files.lookup name).map .file).elim (.error missing) .ok
      | .top => if name ∈ common then .ok .elsewhere else .error missing
      | _ => .error missing

/-- Follows a way of names. -/
def walk (folder : Folder) (place : Place) (way : List String) : Except String Place :=
  way.foldlM (fun place name => folder.step name place) place

/-- Where a way of names starts, and the names that are left: at the folder, at the top, or where
the client runs. -/
def start (folder : Folder) : List String → Place × List String
  | [] => (.elsewhere, [])
  | first :: rest =>
    if first = folder.path ∧ first ≠ "" then (.home, rest)
    else if first = "" then (.top, rest)
    else (.elsewhere, first :: rest)

/-- Reads a file. -/
def read (folder : Folder) : Mqtt.FileReader := fun path =>
  if '\x00' ∈ path.toList then .error unspeakable
  else if path = "" then .error missing
  else if maxPath < path.utf8ByteSize then .error tooLong
  else
    let (place, way) := folder.start (path.splitOn "/")
    match folder.walk place way with
    | .ok (.file bytes) => .ok bytes
    | .ok _ => .error noFile
    | .error words => .error words

end Folder

end MessageBus
