import NumberRules.FileError

/-! # Directories held in memory

A `Directory` is a list of files by their paths, from which a command can read instead of the disk.
`Directory.read` follows a path name by name, as a system does: from the directory itself, through
subdirectories and back.  What lies outside is there but cannot be read.
-/

namespace NumberRules.Command
set_option autoImplicit false

/-- Files by their paths, relative to the directory; of two files with one path the later counts. -/
structure Directory where
  files : List (String × String)

namespace Directory

def nameLimit : Nat := 255

def pathLimit : Nat := 4095

def names (path : String) : List String := path.splitOn "/"

def isIdle (name : String) : Bool := name = "" || name = "."

/-- The names in the path of a file, apart from idle ones. -/
def steps (path : String) : List String := (names path).filter (!isIdle ·)

inductive Place where
  /-- To the directory, or to a subdirectory of it, by the names of the way. -/
  | inside (way : List String)
  | outside
  | file (content : String)

def find (dir : Directory) (way : List String) : Except FileError Place :=
  match dir.files.reverse.find? (steps ·.1 = way) with
  | some entry => .ok (.file entry.2)
  | none =>
    if dir.files.any fun entry => way.isPrefixOf (steps entry.1) then .ok (.inside way)
    else .error .notFound

/-- The place that a name leads to from another place. -/
def follow (dir : Directory) (place : Place) (name : String) : Except FileError Place :=
  match place with
  | .file _ => .error .notDirectory
  | .outside =>
    if isIdle name || name = ".." then .ok .outside
    else if nameLimit < name.utf8ByteSize then .error .nameTooLong
    else .error .notFound
  | .inside way =>
    if isIdle name then .ok (.inside way)
    else if name = ".." then .ok (if way.isEmpty then .outside else .inside way.dropLast)
    else if nameLimit < name.utf8ByteSize then .error .nameTooLong
    else dir.find (way ++ [name])

def start (path : String) : Place := if path.startsWith "/" then .outside else .inside []

def read (dir : Directory) (path : String) : Except FileError String :=
  if path.isEmpty then .error .notFound
  else if pathLimit < path.utf8ByteSize then .error .nameTooLong
  else do
    match ← (names path).foldlM dir.follow (start path) with
    | .file content => .ok content
    | _ => .error .isDirectory

end Directory

end NumberRules.Command
