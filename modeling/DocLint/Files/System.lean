import DocLint.Text.Utf8

/-!
# File systems

What the linter asks of a file system: whether a path names a file, what is in it, and which files lie
below a directory.
-/

namespace DocLint

set_option autoImplicit false

/-- Why a file cannot be read or written. -/
inductive FileFault where
  | notFound
  | notDirectory
  | isDirectory
  | tooManyLinks
  | nameTooLong
  /-- A NUL character in the path. -/
  | nulInPath
  /-- The bytes encode no text. -/
  | notText
  /-- Any other cause, in the words of the system. -/
  | other (message : String)
  deriving DecidableEq, Repr

/-- The text of a fault. -/
def FileFault.message : FileFault → String
  | notFound => "No such file or directory (os error 2)"
  | notDirectory => "Not a directory (os error 20)"
  | isDirectory => "Is a directory (os error 21)"
  | tooManyLinks => "Too many levels of symbolic links (os error 40)"
  | nameTooLong => "File name too long (os error 36)"
  | nulInPath => "file name contained an unexpected NUL byte"
  | notText => "stream did not contain valid UTF-8"
  | other m => m

/-- A file system, given by its answers. -/
structure FileSystem where
  /-- Whether a path leads to a regular file. -/
  isFile : String → Bool
  /-- Whether there is anything at a path, be it a link that leads nowhere. -/
  occupied : String → Bool
  /-- The content of a file. -/
  read : String → Except FileFault (List UInt8)
  /-- Why a file cannot be written, if it cannot. -/
  writeFault : String → Option FileFault
  /-- The regular files at and below a path, links not followed: for each the names that lead to it from
  there. -/
  walk : String → List (List String)

namespace FileSystem

def readText (fs : FileSystem) (path : String) : Except FileFault String := do
  let bytes ← fs.read path
  match Text.textOfBytes? bytes with
  | some text => return text
  | none => throw .notText

end FileSystem

end DocLint
