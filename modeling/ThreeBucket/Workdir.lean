/-!
# Files of a working directory

Reading a file can fail in several ways, and which of them is reported depends on how the path is
followed: part by part, from left to right.

* `ReadFault` — why a file cannot be read, and its wording.
* `Workdir` — the files and directories below the working directory.
* `Workdir.read` — the text of the file at a path.

A path is followed from the working directory.  Empty parts and `.` stay where they are, `..`
goes up, **and every step needs a directory to start from**.  Nothing is known to lie outside the
working directory.
-/

namespace ThreeBucket

/-- Why a file cannot be read. -/
inductive ReadFault where
  | notFound
  | isDirectory
  | notDirectory
  | nameTooLong
  | notUtf8
  | nulInName
  | other (text : String)
  deriving Repr, DecidableEq

namespace ReadFault

/-- The words for a fault. -/
def message : ReadFault → String
  | .notFound => "No such file or directory (os error 2)"
  | .isDirectory => "Is a directory (os error 21)"
  | .notDirectory => "Not a directory (os error 20)"
  | .nameTooLong => "File name too long (os error 36)"
  | .notUtf8 => "stream did not contain valid UTF-8"
  | .nulInName => "file name contained an unexpected NUL byte"
  | .other text => text

end ReadFault

/-- A file or a directory. -/
inductive Content where
  | file (bytes : ByteArray)
  | directory

/-- The files and directories below the working directory, by the parts of their paths.  The
parents of an entry are directories too. -/
structure Workdir where
  entries : List (List String × Content) := []

namespace Workdir

/-- The parts of a path. -/
def parts (path : String) : List String :=
  (path.splitOn "/").filter (· != "")

/-- The working directory with one more entry. -/
def add (w : Workdir) (path : String) (content : Content) : Workdir :=
  { entries := w.entries ++ [(parts path, content)] }

/-- What lies at a path of parts, if anything does. -/
def content? (w : Workdir) (path : List String) : Option Content :=
  match w.entries.find? fun e => e.1 == path with
  | some (_, content) => some content
  | none =>
    if path.isEmpty || w.entries.any fun e => path.isPrefixOf e.1 then some .directory else none

/-- Where following a path has led. -/
inductive Place where
  /-- A place below the working directory. -/
  | inside (path : List String) (content : Content)
  /-- A directory that the working directory lies in. -/
  | outside

/-- The longest name of a file or directory, in bytes. -/
def nameLimit : Nat := 255

/-- The longest path, in bytes. -/
def pathLimit : Nat := 4095

/-- Follows one part of a path. -/
def step (w : Workdir) (part : String) : Place → Except ReadFault Place
  | .inside _ (.file _) => .error .notDirectory
  | .inside path .directory =>
    if part = "" ∨ part = "." then .ok (.inside path .directory)
    else if part = ".." then
      .ok (if path.isEmpty then .outside else .inside path.dropLast .directory)
    else if nameLimit < part.utf8ByteSize then .error .nameTooLong
    else
      match w.content? (path ++ [part]) with
      | some content => .ok (.inside (path ++ [part]) content)
      | none => .error .notFound
  | .outside =>
    if part = "" ∨ part = "." ∨ part = ".." then .ok .outside
    else if nameLimit < part.utf8ByteSize then .error .nameTooLong
    else .error .notFound

/-- Where a path leads.  One that starts with a slash starts outside. -/
def follow (w : Workdir) (path : String) : Except ReadFault Place :=
  let start : Place := if path.startsWith "/" then .outside else .inside [] .directory
  (path.splitOn "/").foldlM (fun place part => w.step part place) start

/-- The text of the file at a path. -/
def read (w : Workdir) (path : String) : Except ReadFault String :=
  if path.toList.contains '\x00' then .error .nulInName
  else if pathLimit < path.utf8ByteSize then .error .nameTooLong
  else if path = "" then .error .notFound
  else do
    match ← w.follow path with
    | .inside _ (.file bytes) =>
      match String.fromUTF8? bytes with
      | some text => .ok text
      | none => .error .notUtf8
    | _ => .error .isDirectory

end Workdir

end ThreeBucket
