/-!
# Writing into a directory

A directory that holds files and no further directories.  A path is followed
name by name: every name but the last has to be a directory, and the last one
must not be.  Of what lies outside only the directories and devices are known
that every system has.  A file written outside leaves the directory as it is.
-/

namespace ShaderTree

namespace Command

/-- Why a file could not be written, as the operating system puts it. -/
structure FileError where
  code : Nat
  kind : String
  message : String
  deriving DecidableEq, Repr

namespace FileError

def notFound : FileError := ⟨2, "NotFound", "No such file or directory"⟩

def notDirectory : FileError := ⟨20, "NotADirectory", "Not a directory"⟩

def isDirectory : FileError := ⟨21, "IsADirectory", "Is a directory"⟩

def noSpace : FileError := ⟨28, "StorageFull", "No space left on device"⟩

def nameTooLong : FileError := ⟨36, "InvalidFilename", "File name too long"⟩

def all : List FileError := [notFound, notDirectory, isDirectory, noSpace, nameTooLong]

end FileError

/-- The most bytes that one name of a path may have. -/
def nameLimit : Nat := 255

/-- The most bytes that a whole path may have. -/
def pathLimit : Nat := 4095

/-- A file of the system that is no place to keep a text. -/
inductive Device where
  | null
  | full
  | stdout
  | stderr
  deriving DecidableEq, Repr

namespace Device

/-- The device at a path from the root. -/
def at? : List String → Option Device
  | ["dev", "null"] | ["dev", "zero"] => some .null
  | ["dev", "full"] => some .full
  | ["dev", "stdout"] => some .stdout
  | ["dev", "stderr"] => some .stderr
  | _ => none

end Device

/-- The directories that every system has, as paths from the root. -/
def systemDirectories : List (List String) :=
  [[], ["bin"], ["boot"], ["dev"], ["dev", "shm"], ["etc"], ["home"], ["lib"], ["media"], ["mnt"],
    ["opt"], ["proc"], ["root"], ["run"], ["sbin"], ["srv"], ["sys"], ["tmp"], ["usr"],
    ["usr", "bin"], ["usr", "lib"], ["usr", "local"], ["var"], ["var", "log"], ["var", "tmp"]]

/-- Where a path leads while it is followed: to the directory itself, to one above
it, or to one that is known by its path from the root. -/
inductive Place where
  | here
  | above
  | system (path : List String)
  deriving DecidableEq, Repr

/-- Where a text written to a path ends up. -/
inductive Destination where
  | file (name : String)
  | elsewhere
  | stdout
  | stderr
  deriving DecidableEq, Repr

/-- Files by name, with their text. -/
structure Directory where
  files : List (String × String) := []
  deriving DecidableEq, Repr

namespace Directory

/-- Follows one name that has to be a directory. -/
def enter (d : Directory) (place : Place) (name : String) : Except FileError Place :=
  match place, name with
  | _, "" | _, "." => .ok place
  | .here, ".." | .above, ".." => .ok .above
  | .system path, ".." => .ok (.system path.dropLast)
  | _, _ =>
    if nameLimit < name.utf8ByteSize then
      .error .nameTooLong
    else
      match place with
      | .here => .error (if d.files.any (·.1 == name) then .notDirectory else .notFound)
      | .above => .error .notFound
      | .system path =>
        if systemDirectories.contains (path ++ [name]) then
          .ok (.system (path ++ [name]))
        else
          .error (if (Device.at? (path ++ [name])).isSome then .notDirectory else .notFound)

/-- What the last name of a path stands for. -/
def last (place : Place) (name : String) : Except FileError Destination :=
  if nameLimit < name.utf8ByteSize then
    .error .nameTooLong
  else
    match place with
    | .here => .ok (.file name)
    | .above => .ok .elsewhere
    | .system path =>
      if systemDirectories.contains (path ++ [name]) then
        .error .isDirectory
      else
        match Device.at? (path ++ [name]) with
        | some .full => .error .noSpace
        | some .stdout => .ok .stdout
        | some .stderr => .ok .stderr
        | some .null | none => .ok .elsewhere

/-- Follows a path to the place of the file it names. A path that ends in a slash
names a directory. -/
def destination (d : Directory) (path : String) : Except FileError Destination := do
  if pathLimit < path.utf8ByteSize then
    throw .nameTooLong
  let names := path.splitOn "/"
  let start := if path.toList.head? = some '/' then Place.system [] else .here
  let shortened := names.reverse.dropWhile (· == "")
  let place ← shortened.tail.reverse.foldlM d.enter start
  match shortened.head? with
  | none | some "." | some ".." => throw .isDirectory
  | some name => if names.getLast? = some "" then throw .isDirectory else last place name

/-- Gives a file a text, whether it was there or not. -/
def put (d : Directory) (name text : String) : Directory :=
  ⟨d.files.filter (·.1 != name) ++ [(name, text)]⟩

end Directory

end Command

end ShaderTree
