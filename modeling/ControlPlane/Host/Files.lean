/-!
# Files

The files a program sees, as a finite map from absolute paths to contents. A path names a
file, a directory, or nothing; reading fails the way the operating system reports it.
Relative paths are taken from a working directory.

The standard view holds the directories every Linux host has, and `/dev/null`, which reads
as empty.
-/

namespace ControlPlane

/-- What stands at a path. -/
inductive FileEntry where
  | file (contents : String)
  | directory
  deriving Inhabited

/-- Why reading a file failed, with the operating system's words and number. -/
inductive IoError where
  | notFound
  | isDirectory
  | notDirectory
  deriving Inhabited, BEq

namespace IoError

def render : IoError → String
  | .notFound => "No such file or directory (os error 2)"
  | .isDirectory => "Is a directory (os error 21)"
  | .notDirectory => "Not a directory (os error 20)"

end IoError

/-- The files of a host and the working directory. -/
structure FileSystem where
  entries : List (String × FileEntry) := []
  cwd : String := "/"
  deriving Inhabited

namespace FileSystem

def standard : FileSystem :=
  { entries := ["/", "/bin", "/dev", "/etc", "/home", "/lib", "/opt", "/proc", "/proc/self",
                "/root", "/sbin", "/sys", "/tmp", "/usr", "/usr/bin", "/usr/lib", "/var"].map
      (·, FileEntry.directory) ++ [("/dev/null", .file "")] }

def segments (path : String) : List String :=
  (path.splitOn "/").filter fun s => !s.isEmpty && s != "."

/-- The absolute form of a path: relative paths start at the working directory; `..` steps
up. -/
def absolute (fs : FileSystem) (path : String) : String :=
  let start := if path.startsWith "/" then [] else segments fs.cwd
  let parts := (segments path).foldl (fun acc s => if s == ".." then acc.dropLast else acc ++ [s]) start
  "/" ++ String.intercalate "/" parts

def lookup (fs : FileSystem) (path : String) : Option FileEntry :=
  (fs.entries.find? (·.1 == path)).map (·.2)

def write (fs : FileSystem) (path : String) (contents : String) : FileSystem :=
  let p := fs.absolute path
  { fs with entries := (p, .file contents) :: fs.entries.filter (·.1 != p) }

/-- Adds a directory, with the directories above it, and makes it the working directory. -/
def enter (fs : FileSystem) (path : String) : FileSystem :=
  let p := fs.absolute path
  let parts := segments p
  let dirs := (List.range (parts.length + 1)).map fun k => "/" ++ String.intercalate "/" (parts.take k)
  let missing := dirs.filter fun d => (fs.lookup d).isNone
  { entries := fs.entries ++ missing.map (·, FileEntry.directory), cwd := p }

/-- The absolute path a path leads to, walked one segment at a time: each segment is taken
from a directory that must exist, so a path fails as not found through a missing entry and as
not a directory through a file, even where `..` would step back out of it. `.` stays and `..`
steps up, at the root staying there. -/
def resolve (fs : FileSystem) (path : String) : Except IoError (List String) :=
  let start := if path.startsWith "/" then [] else segments fs.cwd
  let steps := (path.splitOn "/").filter fun s => !s.isEmpty
  let step (parts : List String) (s : String) : Except IoError (List String) :=
    match fs.lookup ("/" ++ String.intercalate "/" parts) with
    | some .directory =>
      pure (if s == "." then parts else if s == ".." then parts.dropLast else parts ++ [s])
    | some (.file _) => throw .notDirectory
    | none => throw .notFound
  steps.foldlM step start

/-- Reads a file as text. -/
def read (fs : FileSystem) (path : String) : Except IoError String := do
  if path.isEmpty then throw .notFound
  let parts ← fs.resolve path
  match fs.lookup ("/" ++ String.intercalate "/" parts) with
  | some (.file text) =>
    if path.endsWith "/" then throw .notDirectory else pure text
  | some .directory => throw .isDirectory
  | none => throw .notFound

end FileSystem

end ControlPlane
