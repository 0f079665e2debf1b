import TypeSchema.Text.Quoted
import TypeSchema.Text.Words
/-!
# Paths

The path of a file that is written. A path loses needless dots and slashes when it is read; two
steps up stay, since what they mean depends on the directories that exist.

Before a file is written the directories above it are made. `Path.check` says why the file at a
path cannot be written.
-/

namespace TypeSchema.Console

/-- A path: the slashes it starts with, and its parts. -/
structure Path where
  root : String
  parts : List String
  deriving DecidableEq, Repr, Inhabited

/-- Why a file cannot be written. -/
inductive PathError where
  | isDirectory (path : String)
  | tooLong (path : String)
  deriving DecidableEq, Repr

namespace Path

/-- The path that a text names. Two slashes at its start are kept, and more count as one. -/
def ofString (s : String) : Path :=
  let cs := s.toList
  let slashes := (cs.takeWhile (· = '/')).length
  { root := if slashes = 2 then "//" else if slashes = 0 then "" else "/"
    parts := ((Text.splitAt (· == '/') cs).map String.ofList).filter fun p =>
      p ≠ "" && p ≠ "." }

/-- The text of a path. -/
def display (path : Path) : String :=
  if path.root = "" ∧ path.parts = [] then "." else path.root ++ "/".intercalate path.parts

/-- The path of the directory that holds what is at a path. -/
def parent (path : Path) : Path := { path with parts := path.parts.dropLast }

/-- Take the last part back; above the start of a relative path steps up are kept. -/
def stepUp (absolute : Bool) (done : List String) : List String :=
  match done with
  | [] => if absolute then [] else [".."]
  | ".." :: rest => ".." :: ".." :: rest
  | _ :: rest => rest

/-- A path without steps up, where they can be taken. -/
def resolve (path : Path) : Path :=
  let absolute := path.root ≠ ""
  { root := if absolute then "/" else ""
    parts := (path.parts.foldl (fun done part =>
      if part = ".." then stepUp absolute done else part :: done) []).reverse }

/-- The directories that lead to a path, with what is at the path itself. -/
def ancestors (path : Path) : List Path :=
  (List.range (path.parts.length + 1)).map fun n => { path with parts := path.parts.take n }

/-- Whether a path without steps up leads to a directory, by the directories that are known. -/
def isKnown (known : List Path) (path : Path) : Bool :=
  path.parts.isEmpty || path.parts.getLast? == some ".." ||
    known.any fun d => d.root == path.root && path.parts.isPrefixOf d.parts

/-- Whether a part is longer than a name may be. -/
def isTooLong (part : String) : Bool := 255 < part.utf8ByteSize

/-- The path that is blamed for a part that is too long: the whole path, or the one up to that
part if a directory before it had to be made first. -/
def tooLong? (known : List Path) (path : Path) : Option Path :=
  let before := path.parts.takeWhile fun p => !isTooLong p
  if before.length = path.parts.length then none
  else if isKnown known { path with parts := before }.resolve then some path
  else some { path with parts := path.parts.take (before.length + 1) }

/-- Why the file at a path cannot be written, if it cannot. -/
def check (known : List Path) (path : Path) : Except PathError Unit :=
  match tooLong? known path.parent with
  | some blamed => .error (.tooLong blamed.display)
  | none =>
    if (path.parts.getLast?.map isTooLong).getD false then .error (.tooLong path.display)
    else
      -- The directories above the file are made first, and its path may lead to one of them.
      let known := known ++ path.parent.ancestors.map resolve
      if isKnown known path.resolve then .error (.isDirectory path.display) else .ok ()

/-- The parts by which a path leads below a directory, if it does. -/
def below? (directory path : Path) : Option (List String) :=
  let path := path.resolve
  let directory := directory.resolve
  if directory.root = path.root && directory.parts.isPrefixOf path.parts &&
      directory.parts.length < path.parts.length then
    some (path.parts.drop directory.parts.length)
  else none

end Path

/-- The text of an error. -/
def PathError.message : PathError → String
  | .isDirectory path => "[Errno 21] Is a directory: " ++ Text.quoted path
  | .tooLong path => "[Errno 36] File name too long: " ++ Text.quoted path

end TypeSchema.Console
