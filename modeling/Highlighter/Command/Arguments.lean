import Highlighter.Files.Access
import Highlighter.States
import Highlighter.Unicode.Case

/-!
# Arguments

What the command line may say.  Arguments are read from left to right: a request for help or for the
version ends the reading, and so does the first mistake.
-/

namespace Highlighter.Command

/-- Why a command fails (`ColorizerError`). -/
inductive Failure where
  | missingLanguage (option : String)
  | missingDirectory
  | unknownOption (option : String)
  | noInputFile
  | file (error : FileError)
  | state (error : StateError)
  deriving DecidableEq, Repr

/-- The words for a failure. -/
def Failure.message : Failure → String
  | missingLanguage option => "Invalid configuration: " ++ option ++ " needs a language name"
  | missingDirectory => "Invalid configuration: --modes needs a directory"
  | unknownOption option => "Invalid configuration: unknown option '" ++ option ++ "'"
  | noInputFile => "Invalid configuration: no input file"
  | file error => "I/O error: " ++ error.message
  | state error => error.message

/-- What is to be shown, and how (`Options`). -/
structure Job where
  language : Option String := none
  modesDirectory : Option String := none
  dump : Bool := false
  list : Bool := false
  file : Option String := none
  deriving DecidableEq, Repr

/-- What the command line asks for (`Action`). -/
inductive Request where
  | help
  | version
  | run (job : Job)
  deriving DecidableEq, Repr

/-- Reads arguments on top of what the earlier ones said (`parse_args`). -/
def readArguments (job : Job) : List String → Except Failure Request
  | [] => .ok (.run job)
  | argument :: rest =>
    match argument with
    | "--help" | "-h" => .ok .help
    | "--version" | "-V" => .ok .version
    | "--language" | "-l" =>
      match rest with
      | [] => .error (.missingLanguage argument)
      | language :: rest =>
        readArguments { job with language := some (Unicode.lowercase language) } rest
    | "--modes" =>
      match rest with
      | [] => .error .missingDirectory
      | directory :: rest => readArguments { job with modesDirectory := some directory } rest
    | "--dump" => readArguments { job with dump := true } rest
    | "--list" => readArguments { job with list := true } rest
    | _ =>
      if argument.startsWith "-" then .error (.unknownOption argument)
      else readArguments { job with file := some argument } rest

end Highlighter.Command
