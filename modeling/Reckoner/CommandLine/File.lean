/-!
# Program files

A program may be read from a file, which can fail. `Directory` is a flat directory of files, as
far as reading from it goes.

* `Directory.read`: the bytes that a path names, or why there are none.
-/

namespace Reckoner.CommandLine

/-- Why a file yields no text. -/
inductive FileError
  | notFound
  | isDirectory
  | notDirectory
  | nameTooLong
  | notText
  | other (cause : String)
  deriving DecidableEq

namespace FileError

/-- The cause in the words of the operating system. -/
def cause : FileError → String
  | notFound => "No such file or directory (os error 2)"
  | isDirectory => "Is a directory (os error 21)"
  | notDirectory => "Not a directory (os error 20)"
  | nameTooLong => "File name too long (os error 36)"
  | notText => "stream did not contain valid UTF-8"
  | other cause => cause

/-- The text of a file error, which names the path and the cause. -/
def message (path : String) (e : FileError) : String :=
  "Error: " ++ path ++ " not found. No such file or directory.\n\nCaused by:\n    " ++ e.cause

end FileError

/-- The text that bytes encode. -/
def textOfBytes (bytes : List UInt8) : Except FileError String :=
  match String.fromUTF8? ⟨bytes.toArray⟩ with
  | some text => .ok text
  | none => .error .notText

/-- The bytes that encode a text. -/
def bytesOfText (s : String) : List UInt8 := s.toUTF8.data.toList

theorem textOfBytes_bytesOfText (s : String) : textOfBytes (bytesOfText s) = .ok s := by
  simp only [textOfBytes, bytesOfText, String.fromUTF8?, String.toUTF8_eq_toByteArray,
    dif_pos s.isValidUTF8]
  rfl

/-- A directory of files without directories inside. -/
structure Directory where
  files : List (String × List UInt8)

namespace Directory

/-- Whether a step of a path stays where it is. -/
def stays (step : String) : Bool := step == "" || step == "."

/-- The longest name of a file, in bytes. -/
def maxNameSize : Nat := 255

/-- The longest path, in bytes. -/
def maxPathSize : Nat := 4095

/-- Why nothing is found under a name. -/
def missing (name : String) : FileError :=
  if maxNameSize < name.utf8ByteSize then .nameTooLong else .notFound

/-- Why the steps of a path outside the directory yield no text: without a name among them they
lead to a directory, and nothing is known of a name. -/
def outside : List String → FileError
  | [] => .isDirectory
  | step :: rest => if stays step || step == ".." then outside rest else missing step

/-- The bytes at the end of the steps of a path. -/
def follow (d : Directory) : List String → Except FileError (List UInt8)
  | [] => .error .isDirectory
  | step :: rest =>
    if stays step then d.follow rest
    else if step = ".." then .error (outside rest)
    else match d.files.lookup step with
      | none => .error (missing step)
      | some bytes => if rest.isEmpty then .ok bytes else .error .notDirectory

/-- The bytes of the file that a path names. The empty path names nothing. -/
def read (d : Directory) (path : String) : Except FileError (List UInt8) :=
  if path = "" then .error .notFound
  else if maxPathSize < path.utf8ByteSize then .error .nameTooLong
  else if path.startsWith "/" then .error (outside (path.splitOn "/"))
  else d.follow (path.splitOn "/")

end Directory

end Reckoner.CommandLine
