/-! What the program asks of a file system, and why a file system refuses. -/

namespace Voiceover

inductive FileError
  /-- A file or a folder on the way to it is not there. -/
  | missing
  /-- Something is there already. -/
  | alreadyThere
  /-- A file is on the way, or where a folder has to be. -/
  | notFolder
  /-- A folder is where a file has to be. -/
  | isFolder
  /-- A name, or the whole path, is longer than the file system takes. -/
  | nameTooLong
  /-- No path has a NUL in it, so the file system was not asked. -/
  | nulInPath
  /-- Anything else, in the words of the file system. -/
  | other (reason : String)
deriving DecidableEq

namespace FileError

def code? : FileError → Option Nat
  | missing => some 2
  | alreadyThere => some 17
  | notFolder => some 20
  | isFolder => some 21
  | nameTooLong => some 36
  | nulInPath | other _ => none

def message : FileError → String
  | missing => "No such file or directory (os error 2)"
  | alreadyThere => "File exists (os error 17)"
  | notFolder => "Not a directory (os error 20)"
  | isFolder => "Is a directory (os error 21)"
  | nameTooLong => "File name too long (os error 36)"
  | nulInPath => "file name contained an unexpected NUL byte"
  | other reason => reason

end FileError

/-- A file system. `write` makes the folders that a file is in, `replace` wants them to be there,
and `exists` says no only where nothing is and nothing is in the way. -/
structure Storage (m : Type → Type) where
  read : (path : String) → m (Except FileError ByteArray)
  exists? : (path : String) → m (Except FileError Bool)
  replace : (path : String) → (content : ByteArray) → m (Except FileError Unit)
  write : (path : String) → (content : ByteArray) → m (Except FileError Unit)
  makeFolders : (path : String) → m (Except FileError Unit)

end Voiceover
