/-!
# Files the host reads

The host reads its configuration and its seed file by path, as UTF-8 text.
A read is refused, in this order:

1. for a path holding a NUL character, which no path may hold, before the
   system is asked anything (`FileError.nulInName`);
2. for a reason the system gives, with its error number and description
   (`FileError.system`: a missing file, a directory);
3. for bytes that are not UTF-8 text (`FileError.notText`).

A file system is given as what each path holds (`FileSystem`), so a run can
be answered from a table of texts as well as from real files:
`FileSystem.read` applies the three checks to it, and `decodeText` is the
last of them on bytes read from a real file.
-/

namespace GeoAccess.Host

/-- Why a file could not be read. -/
inductive FileError where
  /-- The path holds a NUL character. -/
  | nulInName
  /-- The system refused: its error number and its description. -/
  | system (code : Nat) (description : String)
  /-- The bytes read are not UTF-8 text. -/
  | notText
  deriving DecidableEq, Repr

namespace FileError

/-- The failure for a path that names nothing. -/
def notFound : FileError := .system 2 "No such file or directory"

/-- The failure for a path that names a directory. -/
def isDirectory : FileError := .system 21 "Is a directory"

/-- The wording of a failure; the system's own carries its error number. -/
def message : FileError → String
  | .nulInName => "file name contained an unexpected NUL byte"
  | .system code d => d ++ " (os error " ++ toString code ++ ")"
  | .notText => "stream did not contain valid UTF-8"

end FileError

/-- The first check of a read: the path holds no NUL character. -/
def checkPath (path : String) : Except FileError Unit :=
  if path.contains '\x00' then .error .nulInName else .ok ()

/-- The last check of a read: the bytes are UTF-8 text. -/
def decodeText (bytes : ByteArray) : Except FileError String :=
  match String.fromUTF8? bytes with
  | some s => .ok s
  | none => .error .notText

/-- What a path holds. -/
inductive FileEntry where
  /-- A file of UTF-8 text. -/
  | text (s : String)
  /-- A file whose bytes are not UTF-8 text. -/
  | binary
  | directory
  deriving DecidableEq, Repr

/-- A file system: what each path holds, if anything. -/
abbrev FileSystem := String → Option FileEntry

/-- Reads a file's text: the path is checked first, then what it names. -/
def FileSystem.read (fs : FileSystem) (path : String) : Except FileError String := do
  checkPath path
  match fs path with
  | none => throw .notFound
  | some (.text s) => return s
  | some .binary => throw .notText
  | some .directory => throw .isDirectory

/-- A path holding a NUL character is refused whatever the file system holds. -/
theorem FileSystem.read_nul (fs : FileSystem) (path : String) (h : path.contains '\x00' = true) :
    fs.read path = .error .nulInName := by
  simp [FileSystem.read, checkPath, h, bind, Except.bind]

end GeoAccess.Host
