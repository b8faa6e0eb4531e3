import Highlighter.Command.Basic

/-!
# The program

The command over the files of the system.  It reads settings from the file `.linetag.conf` in the
home directory, if they can be read; its output goes to standard output, and a failure to standard
error.
-/

namespace Highlighter.Command

/-- A failure of the system, by its number, which may come with either sign. -/
def fileErrorOfCode (code : UInt32) (details : String) : FileError :=
  match code.toInt32.toInt.natAbs with
  | 2 => .notFound
  | 20 => .notDirectory
  | 21 => .isDirectory
  | 36 => .nameTooLong
  | number => .other s!"{details} (os error {number})"

/-- What a failed access to the system means. -/
def fileError : IO.Error → FileError
  | .alreadyExists _ code details | .invalidArgument _ code details
  | .permissionDenied _ code details | .resourceExhausted _ code details
  | .inappropriateType _ code details | .noSuchThing _ code details
  | .interrupted _ code details | .noFileOrDirectory _ code details
  | .otherError code details | .resourceBusy code details | .resourceVanished code details
  | .unsupportedOperation code details | .hardwareFault code details
  | .unsatisfiedConstraints code details | .illegalOperation code details
  | .protocolError code details | .timeExpired code details => fileErrorOfCode code details
  | .unexpectedEof => .other "unexpected end of file"
  | .userError text => .other text

/-- Runs an access to the system. -/
def attempt {α : Type} (action : IO α) : IO (Except FileError α) := do
  match ← action.toBaseIO with
  | .ok value => return .ok value
  | .error error => return .error (fileError error)

/-- The files of the system. -/
def systemFiles : FileAccess IO where
  read path := attempt (IO.FS.readBinFile path)
  list path := attempt do
    let directory ← IO.FS.realPath path
    return (← directory.readDir).toList.map (·.fileName)

/-- The settings of the user, or the usual ones if there are none that can be read
(`Config.load`). -/
def userSettings : IO Settings := do
  match ← IO.getEnv "HOME" with
  | none => return {}
  | some home =>
    match ← Settings.load systemFiles (FileName.inDirectory home ".linetag.conf") with
    | .ok settings => return settings
    | .error _ => return {}

end Highlighter.Command

/-- Does what the arguments ask for (`main`).  The exit code is 1 after a failure and 0
otherwise. -/
def main (args : List String) : IO UInt32 := do
  let settings ← Highlighter.Command.userSettings
  match ← Highlighter.Command.run Highlighter.Command.systemFiles settings args with
  | .ok output =>
    (← IO.getStdout).putStr output
    return 0
  | .error failure =>
    (← IO.getStderr).putStrLn ("Error: " ++ failure.message)
    return 1
