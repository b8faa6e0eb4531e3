import Highlighter.Mode.Source

/-!
# The bundled modes

The mode files that every library starts from.  That of C has a second ruleset, for the lines of the
preprocessor, which the main one delegates to.
-/

namespace Highlighter.Builtin

/-! ## C -/

/-- The ruleset `cpp` of C. -/
def cCpp : Ruleset where
  attributes := {
    default := some "keyword2"
    ignoreCase := false }
  keywords := [
    ("markup", [
      "include", "define", "undef", "if", "ifdef", "ifndef", "elif", "else", "endif", "error",
      "pragma", "line"])]
  rules := [
    { spec := .span "<" ">" "literal1" none false { noLineBreak := true } {} },
    { spec := .span "\"" "\"" "literal1" none false { noLineBreak := true } {} },
    { spec := .span "/*" "*/" "comment1" none false {} {} },
    { spec := .keywords }]

/-- The main ruleset of C. -/
def cMain : Ruleset where
  attributes := {
    escape := "\\"
    digitPattern := "(0x[0-9a-fA-F]+|[0-9]+(\\.[0-9]*)?([eE][+-]?[0-9]+)?)[uUlLfF]*"
    ignoreCase := false
    noWordSep := "_" }
  keywords := [
    ("keyword1", [
      "break", "case", "continue", "default", "do", "else", "for", "goto", "if", "return",
      "sizeof", "switch", "while"]),
    ("keyword2", [
      "auto", "const", "enum", "extern", "inline", "register", "restrict", "static", "struct",
      "typedef", "union", "volatile"]),
    ("keyword3", [
      "char", "double", "float", "int", "long", "short", "signed", "unsigned", "void", "size_t",
      "bool"]),
    ("literal2", [
      "NULL", "true", "false"])]
  rules := [
    { spec := .eolSpan "#" "keyword2" (some "c::cpp") false { atWhitespaceEnd := true } },
    { spec := .span "/*" "*/" "comment1" none false { noEscape := true } {} },
    { spec := .eolSpan "//" "comment1" none false {} },
    { spec := .span "\"" "\"" "literal1" none false { noLineBreak := true } {} },
    { spec := .span "'" "'" "literal1" none false { noLineBreak := true } {} },
    { chars := some "=!<>+-*/%&|^~?:"
      spec := .seqRegexp "(==|!=|<=|>=|->|&&|\\|\\||\\+\\+|--|<<|>>|[=!<>+\\-*/%&|^~?:])"
        "operator" none {} },
    { spec := .keywords }]

/-- The mode file of C. -/
def c : ModeFile where
  language := some "c"
  delims := { line := some "//", start := some "/*", stop := some "*/" }
  rulesets := [("cpp", cCpp), ("main", cMain)]

/-! ## Markdown -/

/-- The main ruleset of Markdown. -/
def markdownMain : Ruleset where
  attributes := {
    highlightDigits := false
    ignoreCase := false }
  rules := [
    { spec := .eolSpan "#" "keyword1" none false { atLineStart := true } },
    { spec := .span "```"
        "```" "literal2" none false { noEscape := true } { atLineStart := true } },
    { spec := .span "`" "`" "literal1" none false { noEscape := true, noLineBreak := true } {} },
    { spec := .eolSpan ">" "comment1" none false { atWhitespaceEnd := true } },
    { spec := .span "**" "**" "keyword2" none false { noLineBreak := true } {} },
    { spec := .span "*" "*" "keyword3" none false { noLineBreak := true } {} },
    { spec := .span "[" "]" "link" none false { noLineBreak := true } {} },
    { chars := some "-*+0123456789"
      spec := .seqRegexp "([-*+]|[0-9]+\\.)[ \\t]"
        "operator" none { atWhitespaceEnd := true } },
    { spec := .span "<!--" "-->" "comment2" none false {} {} }]

/-- The mode file of Markdown. -/
def markdown : ModeFile where
  language := some "markdown"
  rulesets := [("main", markdownMain)]

/-! ## Python -/

/-- The main ruleset of Python. -/
def pythonMain : Ruleset where
  attributes := {
    escape := "\\"
    digitPattern := "(0[xX][0-9a-fA-F]+|[0-9]+(\\.[0-9]*)?([eE][+-]?[0-9]+)?)[jJlL]?"
    ignoreCase := false }
  keywords := [
    ("keyword1", [
      "and", "as", "assert", "async", "await", "break", "class", "continue", "def", "del", "elif",
      "else", "except", "finally", "for", "from", "global", "if", "import", "in", "is", "lambda",
      "nonlocal", "not", "or", "pass", "raise", "return", "try", "while", "with", "yield"]),
    ("keyword2", [
      "self", "cls"]),
    ("keyword3", [
      "abs", "all", "any", "bool", "dict", "enumerate", "float", "int", "isinstance", "len",
      "list", "max", "min", "object", "open", "print", "range", "repr", "set", "sorted", "str",
      "super", "tuple", "type", "zip"]),
    ("literal2", [
      "None", "True", "False", "NotImplemented", "Ellipsis"])]
  rules := [
    { spec := .eolSpan "#" "comment1" none false {} },
    { spec := .span "\"\"\"" "\"\"\"" "literal2" none false {} {} },
    { spec := .span "'''" "'''" "literal2" none false {} {} },
    { spec := .span "\"" "\"" "literal1" none false { noLineBreak := true } {} },
    { spec := .span "'" "'" "literal1" none false { noLineBreak := true } {} },
    { chars := some "=!<>+-*/%&|^~"
      spec := .seqRegexp "(==|!=|<=|>=|\\*\\*|//|->|[=<>+\\-*/%&|^~])"
        "operator" none {} },
    { spec := .keywords }]

/-- The mode file of Python. -/
def python : ModeFile where
  language := some "python"
  delims := { line := some "#" }
  rulesets := [("main", pythonMain)]

/-! ## Rust -/

/-- The main ruleset of Rust. -/
def rustMain : Ruleset where
  attributes := {
    escape := "\\"
    digitPattern :=
      "(0x[0-9a-fA-F_]+|0o[0-7_]+|0b[01_]+|[0-9][0-9_]*(\\.[0-9_]+)?([eE][+-]?[0-9_]+)?)"
        ++ "([iu](8|16|32|64|128|size)|f32|f64)?"
    ignoreCase := false
    noWordSep := "_" }
  keywords := [
    ("keyword1", [
      "as", "async", "await", "break", "const", "continue", "crate", "dyn", "else", "enum",
      "extern", "fn", "for", "if", "impl", "in", "let", "loop", "match", "mod", "move", "mut",
      "pub", "ref", "return", "static", "struct", "super", "trait", "type", "union", "unsafe",
      "use", "where", "while"]),
    ("keyword2", [
      "self", "Self"]),
    ("keyword3", [
      "bool", "char", "str", "u8", "u16", "u32", "u64", "u128", "usize", "i8", "i16", "i32",
      "i64", "i128", "isize", "f32", "f64", "String", "Vec", "Box", "Rc", "Arc", "Option",
      "Result"]),
    ("literal2", [
      "true", "false", "Some", "None", "Ok", "Err"])]
  rules := [
    { spec := .eolSpan "///" "comment2" none false {} },
    { spec := .eolSpan "//!" "comment2" none false {} },
    { spec := .eolSpan "//" "comment1" none false {} },
    { spec := .span "/*" "*/" "comment1" none false { noEscape := true } {} },
    { spec := .span "\"" "\"" "literal1" none false {} {} },
    { chars := some "'", spec := .seqRegexp "'([^'\\\\]|\\\\.)'" "literal1" none {} },
    { chars := some "'", spec := .seqRegexp "'[A-Za-z_][A-Za-z0-9_]*" "label" none {} },
    { chars := some "#"
      spec := .spanRegexp "#!?\\["
        "]" "keyword4" none false { noLineBreak := true } {} },
    { chars := some "=!<>+-*/%&|^:"
      spec := .seqRegexp "(==|!=|<=|>=|=>|->|::|&&|\\|\\||[=!<>+\\-*/%&|^])"
        "operator" none {} },
    { spec := .keywords }]

/-- The mode file of Rust. -/
def rust : ModeFile where
  language := some "rust"
  delims := { line := some "//", start := some "/*", stop := some "*/" }
  rulesets := [("main", rustMain)]

/-! ## TOML -/

/-- The main ruleset of TOML. -/
def tomlMain : Ruleset where
  attributes := {
    escape := "\\"
    digitPattern := "[+-]?(0x[0-9a-fA-F_]+|[0-9][0-9_]*(\\.[0-9_]+)?([eE][+-]?[0-9_]+)?)"
    ignoreCase := false
    noWordSep := "_-" }
  keywords := [
    ("literal2", [
      "true", "false", "inf", "nan"])]
  rules := [
    { spec := .eolSpan "#" "comment1" none false {} },
    { spec := .span "[["
        "]]" "keyword1" none false { noLineBreak := true } { atWhitespaceEnd := true } },
    { spec := .span "["
        "]" "keyword1" none false { noLineBreak := true } { atWhitespaceEnd := true } },
    { spec := .span "\"\"\"" "\"\"\"" "literal2" none false {} {} },
    { spec := .span "'''" "'''" "literal2" none false { noEscape := true } {} },
    { spec := .span "\"" "\"" "literal1" none false { noLineBreak := true } {} },
    { spec := .span "'" "'" "literal1" none false { noEscape := true, noLineBreak := true } {} },
    { chars := some "ABCDEFGHIJKLMNOPQRSTUVWXYZabcdefghijklmnopqrstuvwxyz_"
      spec := .seqRegexp "[A-Za-z0-9_.-]+[ \\t]*="
        "keyword2" none { atWhitespaceEnd := true } },
    { spec := .keywords }]

/-- The mode file of TOML. -/
def toml : ModeFile where
  language := some "toml"
  delims := { line := some "#" }
  rulesets := [("main", tomlMain)]

end Highlighter.Builtin
