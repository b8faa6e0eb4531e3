import Highlighter.Command.Arguments
import Highlighter.Document
import Highlighter.Rendering
import Highlighter.Settings

/-!
# The command

The command tags the lines of one file and shows them in colours or as a dump, or lists the
languages that it knows.  Its answer is all that it prints, or the failure that keeps it from
printing anything.
-/

namespace Highlighter.Command

/-- The name of the command with its version (`print_version`). -/
def title : String := "linetag 0.1.0"

/-- How to use the command (`print_usage`). -/
def usage : String :=
  "\n".intercalate [
    title ++ " - line-oriented syntax tagging",
    "",
    "Usage: linetag [OPTIONS] FILE",
    "",
    "Options:",
    "  -l, --language NAME  Tag FILE as NAME instead of guessing from its extension",
    "      --modes DIR      Load extra *.toml mode files from DIR",
    "      --dump           Print tagged ranges and line states instead of colors",
    "      --list           List known languages and their comment delimiters",
    "  -h, --help           Show this help message",
    "  -V, --version        Show version information",
    "",
    "Environment:",
    "  LINETAG_LOG           Log filter, e.g. linetag::driver=trace",
    ""]

/-- The language that the extension of a file name tells (`detect_language`). -/
def languageOfFile? (path : String) : Option String :=
  (FileName.splitExtension (FileName.ofPath path)).2.map fun suffix =>
    match Unicode.lowercase suffix with
    | "rs" => "rust"
    | "py" | "pyw" => "python"
    | "c" | "h" => "c"
    | "md" | "markdown" => "markdown"
    | other => other

/-- The languages of a library with the delimiters of their comments. -/
def listing (library : Library) : String :=
  String.join <| library.languages.map fun language =>
    let delims := ((library.file? language).bind (·.delims.text?)).getD ""
    language ++ "\t" ++ delims ++ "\n"

/-- One line of the output. -/
def showLine (job : Job) (settings : Settings) (document : Document) (number : Nat)
    (line : List Char) (cached : CachedLine) : String :=
  if job.dump then
    (Rendering.dump? number line cached.events).getD ""
      ++ s!"{number + 1}\tstate\t{document.session.describe cached.state}\n"
  else if settings.colorOutput then (Rendering.colored? line cached.events).getD ""
  else String.ofList line ++ "\n"

/-- The language that a file is tagged in: the one asked for, or the one that its extension tells if
the library has it, or the default of the settings. -/
def languageFor (job : Job) (settings : Settings) (library : Library) (path : String) : String :=
  let guessed := (languageOfFile? path).filter library.contains
  ((job.language <|> guessed) <|> settings.defaultLanguage).getD ""

/-- All lines of a text, tagged and shown. -/
def showText (job : Job) (settings : Settings) (library : Library) (path text : String) :
    Except Failure String :=
  let lines := Text.lines text.toList
  let document := Document.new library settings.options
  let (_, document) := document.refresh ⟨languageFor job settings library path, true⟩
  match document.highlight lines with
  | (.error error, _) => .error (.state error)
  | (.ok _, document) =>
    .ok <| String.join <| (lines.zip document.lines).mapIdx fun number (line, cached) =>
      showLine job settings document number line cached

/-- Does a job. -/
def runJob {m : Type → Type} [Monad m] (files : FileAccess m) (settings : Settings) (job : Job) :
    m (Except Failure String) := do
  let settings := { settings with modesDirectory := job.modesDirectory <|> settings.modesDirectory }
  match ← settings.library files with
  | .error error => return .error (.file error)
  | .ok library =>
    if job.list then return .ok (listing library)
    else
      match job.file with
      | none => return .error .noInputFile
      | some path =>
        match ← files.readText path with
        | .error error => return .error (.file error)
        | .ok text => return showText job settings library path text

/-- Does what the command line asks for (`run`). -/
def run {m : Type → Type} [Monad m] (files : FileAccess m) (settings : Settings)
    (arguments : List String) : m (Except Failure String) := do
  match readArguments {} arguments with
  | .error failure => return .error failure
  | .ok .help => return .ok usage
  | .ok .version => return .ok (title ++ "\n")
  | .ok (.run job) => runJob files settings job

end Highlighter.Command
