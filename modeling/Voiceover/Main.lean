import Voiceover.Session

/-! The command line. -/

namespace Voiceover

def FileError.ofSystem : IO.Error → FileError
  | .noFileOrDirectory .. => .missing
  | .alreadyExists .. => .alreadyThere
  | .inappropriateType _ 20 _ => .notFolder
  | .inappropriateType _ 21 _ => .isFolder
  | error => .other (toString error)

def attempt (action : IO α) : IO (Except FileError α) := do
  try return .ok (← action) catch error => return .error (.ofSystem error)

def systemStorage : Storage IO where
  read path := attempt (IO.FS.readBinFile path)
  exists? path := do
    match ← attempt (IO.FS.readBinFile path) with
    | .ok _ | .error .isFolder => return .ok true
    | .error .missing => return .ok false
    | .error reason => return .error reason
  replace path content := attempt (IO.FS.writeBinFile path content)
  write path content := attempt do
    if let some folder := Path.parent path then
      if folder ≠ "" then IO.FS.createDirAll folder
    IO.FS.writeBinFile path content
  makeFolders path := attempt do if path ≠ "" then IO.FS.createDirAll path

def showError (report : Report) : IO Unit := do
  if report.level.isShownAt .error then IO.eprintln s!"{report.level.name} {report.message}"

def program : IO UInt32 := do
  let result ← (Session.run systemStorage showError).run
  if let .error (.config reason) := result then
    IO.eprintln s!"Error loading config: {reason.message}"
    IO.eprintln "Please ensure 'config.yml' exists with a script_file entry."
  let outcome := Outcome.ofResult result
  IO.print outcome.output
  if let some error := outcome.error then IO.eprintln s!"Error: {error}"
  return .ofNat outcome.exitCode

end Voiceover

def main : IO UInt32 := Voiceover.program
