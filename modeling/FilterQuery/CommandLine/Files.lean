/-!
# Files

The files that a program can read, as data: the regular files below its working directory, by their
names, with slashes between the directories and the file.

* A path is followed part by part; `.` and empty parts stay in a directory and `..` leaves it.
* A path has at most `pathLimit` bytes, and a name that is looked up has at most `nameLimit`.  The
  path as a whole is measured first, a name only when it is reached.
* Of the root of the file system little is known: the directories that every system has there, and
  the null device, which reads as an empty file.  Of the directories between the root and the
  working directory nothing is known but that they exist.
-/

namespace FilterQuery.CommandLine

/-- Why a file cannot be read. -/
inductive FileFault where
  | notFound
  | isDirectory
  | notDirectory
  /-- The path, or a name in it, is too long. -/
  | nameTooLong
  | other (reason : String)

def FileFault.message : FileFault → String
  | notFound => "No such file or directory (os error 2)"
  | isDirectory => "Is a directory (os error 21)"
  | notDirectory => "Not a directory (os error 20)"
  | nameTooLong => "File name too long (os error 36)"
  | other reason => reason

/-- The greatest number of bytes in a path. -/
def pathLimit : Nat := 4095

/-- The greatest number of bytes in the name of a file or directory. -/
def nameLimit : Nat := 255

/-- Does a part of a path stay where it is? -/
def staysInPlace (part : String) : Bool :=
  part = "" || part = "."

/-! ## Trees of files -/

/-- What is below a directory: the parts of the path of each regular file, with its content, and
those of each directory that has to be mentioned because no file shows it. -/
structure FileTree where
  files : List (List String × String)
  directories : List (List String)

namespace FileTree

/-- The content of the file at `place`. -/
def content? (tree : FileTree) (place : List String) : Option String :=
  tree.files.lookup place

/-- Is there a directory at `place`?  The top of the tree is one. -/
def hasDirectory (tree : FileTree) (place : List String) : Bool :=
  place.isEmpty || tree.directories.contains place || tree.files.any fun (path, _) =>
    place.isPrefixOf path && place.length < path.length

/-- Follows the parts of a path from the directory at `place`.  Parts that are left when the path
leaves the top of the tree go on `outside`; without an outside the path stays at the top. -/
def follow (tree : FileTree) (outside : Option (List String → Except FileFault String))
    (place : List String) : List String → Except FileFault String
  | [] => .error .isDirectory
  | part :: rest =>
    if staysInPlace part then tree.follow outside place rest
    else if part = ".." then
      match place, outside with
      | [], some leave => leave rest
      | _, _ => tree.follow outside place.dropLast rest
    else if nameLimit < part.utf8ByteSize then .error .nameTooLong
    else
      let next := place ++ [part]
      if tree.hasDirectory next then tree.follow outside next rest
      else match tree.content? next with
        | none => .error .notFound
        | some content => if rest.isEmpty then .ok content else .error .notDirectory

end FileTree

/-! ## Around the working directory -/

/-- The root of the file system, as far as it is the same everywhere. -/
def systemRoot : FileTree where
  files := [(["dev", "null"], "")]
  directories :=
    ["bin", "boot", "dev", "etc", "home", "lib", "media", "mnt", "opt", "proc", "root", "run",
     "sbin", "srv", "sys", "tmp", "usr", "var"].map fun name => [name]

/-- Follows the parts of a path from an unknown directory, in which no name is found. -/
def followUnknown (parts : List String) : Except FileFault String :=
  match parts.find? fun part => !(staysInPlace part || part = "..") with
  | none => .error .isDirectory
  | some name => if nameLimit < name.utf8ByteSize then .error .nameTooLong else .error .notFound

/-- The working directory of a program. -/
structure WorkingDirectory where
  tree : FileTree

namespace WorkingDirectory

/-- The directory with files of the given names. -/
def ofNames (files : List (String × String)) : WorkingDirectory :=
  ⟨{ files := files.map fun (name, content) => (name.splitOn "/", content)
     directories := [] }⟩

/-- Reads the file at a path, which starts at the root if its first character is a slash. -/
def read (directory : WorkingDirectory) (path : String) : Except FileFault String :=
  if pathLimit < path.utf8ByteSize then .error .nameTooLong
  else match path.splitOn "/" with
    | "" :: rest => systemRoot.follow none [] rest
    | parts => directory.tree.follow (some followUnknown) [] parts

end WorkingDirectory

end FilterQuery.CommandLine
