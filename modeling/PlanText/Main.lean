import PlanText.CommandLine.Run

/-!
The program itself. It reads every file that its arguments name and leaves all else to
`CommandLine.run`.
-/

namespace PlanText.Main

/-- The cause of a failure by its number in the operating system, which may come negated. -/
def fileError : IO.Error → FileError
  | .noFileOrDirectory _ _ _ => .missing
  | .inappropriateType _ code details => ofCode code details
  | .invalidArgument _ code details => ofCode code details
  | .permissionDenied _ code details => ofCode code details
  | e => .other (toString e)
where
  ofCode (code : UInt32) (details : String) : FileError :=
    if code = 21 ∨ code = 0 - 21 then .isDirectory
    else if code = 20 ∨ code = 0 - 20 then .notDirectory
    else if code = 36 ∨ code = 0 - 36 then .nameTooLong
    else .other (details ++ " (os error " ++ toString code ++ ")")

def readBytes (path : String) : IO (Except FileError ByteArray) := do
  try
    return .ok (← IO.FS.readBinFile path)
  catch e =>
    return .error (fileError e)

/-- A file system that holds what was read. -/
def diskOf (found : List (String × Except FileError ByteArray)) : Disk where
  bytes path := (found.lookup path).getD (.error .missing)
  isFile path :=
    match found.lookup path with
    | some (.ok _) => true
    | some (.error (.other _)) => true
    | _ => false

def filter : IO LogFilter := do
  match ← IO.getEnv "RUST_LOG" with
  | some text => return LogFilter.parse text
  | none => return LogFilter.silent

/-- What is said of a settings file that holds no document. -/
def complaint (path : String) : String := "no TOML document in " ++ path

end PlanText.Main

def main (arguments : List String) : IO UInt32 := do
  let found ← (PlanText.CommandLine.pathsRead arguments).mapM fun path => do
    return (path, ← PlanText.Main.readBytes path)
  let report :=
    PlanText.CommandLine.run (PlanText.Main.diskOf found) (← PlanText.Main.filter) arguments
      PlanText.Main.complaint
  IO.print report.stdout
  IO.eprint report.stderr
  return UInt32.ofNat report.code
