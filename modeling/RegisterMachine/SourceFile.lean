import RegisterMachine.Fault

/-!
# Source files

How a program is read from a file.  `Files` is what a look-up by path answers, and what it answers
has to be text.
-/

namespace RegisterMachine

/-- Why a file is not read. -/
inductive FileError where
  | missing
  | isFolder
  | notFolder
  | nameTooLong
  | nulInName
  /-- The bytes are no text in UTF-8. -/
  | notText
  | other (reason : String)
deriving DecidableEq, Repr

/-- The text of the error. -/
def FileError.message : FileError → String
  | missing      => "No such file or directory (os error 2)"
  | isFolder     => "Is a directory (os error 21)"
  | notFolder    => "Not a directory (os error 20)"
  | nameTooLong  => "File name too long (os error 36)"
  | nulInName    => "file name contained an unexpected NUL byte"
  | notText      => "stream did not contain valid UTF-8"
  | other reason => reason

/-- What a look-up by path answers. -/
abbrev Files := String → Except FileError ByteArray

/-- The program at a path. -/
def readSource (files : Files) (path : String) : Except Fault String :=
  match files path with
  | .error e  => .error (.unreadableFile path e.message)
  | .ok bytes =>
    match String.fromUTF8? bytes with
    | some source => .ok source
    | none        => .error (.unreadableFile path FileError.notText.message)

end RegisterMachine
