/-!
What the program sees of a file system: the bytes of files and which paths are files.
-/

namespace PlanText

/-- Why a file cannot be read as text. -/
inductive FileError
  | missing
  | isDirectory
  | notDirectory
  | nameTooLong
  /-- The path holds a null, which ends a path. -/
  | nullInPath
  /-- The bytes are no UTF-8. -/
  | notText
  | other (reason : String)
deriving DecidableEq, Repr

def FileError.message : FileError → String
  | missing => "No such file or directory (os error 2)"
  | isDirectory => "Is a directory (os error 21)"
  | notDirectory => "Not a directory (os error 20)"
  | nameTooLong => "File name too long (os error 36)"
  | nullInPath => "file name contained an unexpected NUL byte"
  | notText => "stream did not contain valid UTF-8"
  | other reason => reason

structure Disk where
  bytes : String → Except FileError ByteArray
  isFile : String → Bool

namespace Disk

def readText (disk : Disk) (path : String) : Except FileError String :=
  match disk.bytes path with
  | .error e => .error e
  | .ok bytes =>
    match String.fromUTF8? bytes with
    | some text => .ok text
    | none => .error .notText

theorem readText_of_bytes {disk : Disk} {path text : String}
    (h : disk.bytes path = .ok text.toUTF8) : disk.readText path = .ok text := by
  have hdecoded : String.fromUTF8? text.toUTF8 = some text := dif_pos text.isValidUTF8
  rw [readText, h]
  simp only [hdecoded]

end Disk

end PlanText
