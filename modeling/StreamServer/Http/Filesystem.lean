import StreamServer.Cpp.Basic

/-! # The directory tree behind `std::filesystem`

A file system maps each absolute, symlink-free component list to the entry stored there,
and fixes the process's working directory (`StreamServer.FileSystem`). On it,
`fs::canonical` is `absolute` followed by glibc's `realpath`
(`StreamServer.FileSystem.canonical`): the components are walked left to right, `.` and
empty components are skipped, `..` climbs one level of the part already resolved, a
symbolic link is replaced by its target, a missing entry fails with `ENOENT`, a
non-directory with components after it fails with `ENOTDIR`, and the forty-first link
fails with `ELOOP` (`StreamServer.FileSystem.realpathLinks`).
-/

namespace StreamServer

/-- What a directory entry holds. -/
inductive Entry
  | directory
  /-- A regular file, with its bytes when the server process may read it. -/
  | regular (contents : Option (List Char))
  | symlink (target : List Char)
deriving DecidableEq, Repr

/-- A directory tree: the entry at each absolute, symlink-free component list, and the
process's working directory (`current_path()`, itself canonical). -/
structure FileSystem where
  entries : List (List (List Char) × Entry)
  cwd : List (List Char)

namespace FileSystem

/-- The entry at a resolved path; the root always exists and is a directory. -/
def lookup (fs : FileSystem) (path : List (List Char)) : Option Entry :=
  if path = [] then some .directory else fs.entries.lookup path

/-- `path::string()` of a canonical path: `/` for the root, otherwise each component
after a separator. -/
def pathString (path : List (List Char)) : List Char :=
  if path = [] then ['/'] else (path.map ('/' :: ·)).flatten

/-- `operator/` of `std::filesystem::path` on POSIX: an absolute right-hand side replaces
the left, and a separator is inserted when the left ends in a file name. -/
def appendPath (base tail : List Char) : List Char :=
  if tail.head? = some '/' then tail
  else if base ≠ [] ∧ base.getLast? ≠ some '/' then base ++ '/' :: tail
  else base ++ tail

/-- `fs::absolute`: a relative path is appended to the working directory; the empty path
is rejected. -/
def absolute (fs : FileSystem) (p : List Char) : Except CppException (List Char) :=
  if p = [] then .error (.filesystemError .inval)
  else if p.head? = some '/' then .ok p
  else .ok (appendPath (pathString fs.cwd) p)

/-- One pass of `realpath` over the components still to walk; the target of a symbolic
link goes to `follow`, with the directory it is relative to. -/
def walk (fs : FileSystem)
    (follow : List (List Char) → List (List Char) → Except CppException (List (List Char))) :
    List (List Char) → List (List Char) → Except CppException (List (List Char))
  | resolved, [] => .ok resolved
  | resolved, name :: rest =>
      if name = [] ∨ name = ['.'] then walk fs follow resolved rest
      else if name = ['.', '.'] then walk fs follow resolved.dropLast rest
      else
        match fs.lookup (resolved ++ [name]) with
        | none => .error (.filesystemError .noent)
        | some .directory => walk fs follow (resolved ++ [name]) rest
        | some (.regular _) =>
            if rest = [] then .ok (resolved ++ [name]) else .error (.filesystemError .notdir)
        | some (.symlink target) =>
            follow (if target.head? = some '/' then [] else resolved) (target.splitOn '/' ++ rest)

/-- `realpath` with `links` symbolic links still allowed before `ELOOP`. -/
def realpathLinks (fs : FileSystem) :
    Nat → List (List Char) → List (List Char) → Except CppException (List (List Char))
  | 0 => walk fs fun _ _ => .error (.filesystemError .loop)
  | links + 1 => walk fs (realpathLinks fs links)

/-- `fs::canonical`: glibc's `realpath` of the absolute path, which follows at most forty
symbolic links. -/
def canonical (fs : FileSystem) (p : List Char) : Except CppException (List (List Char)) := do
  let pa ← fs.absolute p
  fs.realpathLinks 40 [] (pa.splitOn '/')

/-- `fs::is_regular_file` of a canonical path. -/
def isRegularFile (fs : FileSystem) (path : List (List Char)) : Bool :=
  match fs.lookup path with
  | some (.regular _) => true
  | _ => false

/-- The bytes an `std::ifstream` opened on `path` reads, or `none` when it does not open. -/
def readFile (fs : FileSystem) (path : List Char) : Option (List Char) :=
  match fs.canonical path with
  | .ok resolved =>
      match fs.lookup resolved with
      | some (.regular contents) => contents
      | _ => none
  | .error _ => none

end FileSystem

end StreamServer
