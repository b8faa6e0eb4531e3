/-!
# Directives

Every mode knows the same directives of the Leo editor, section references and addresses, whatever
its rules.  This module names them; what they do is said where lines are matched.
-/

namespace Highlighter

/-- What a mode recognises besides its own rules. -/
inductive Directive where
  /-- `@doc`, or `@` alone, which opens a documentation part. -/
  | docPart
  /-- `@wrap`. -/
  | wrap
  /-- `@nocolor-node`. -/
  | noColorNode
  /-- `@nocolor`. -/
  | noColor
  /-- `@language` and a name. -/
  | language
  /-- `@killcolor`. -/
  | killColor
  /-- `@color`. -/
  | color
  /-- Any of the other words that Leo gives a meaning behind `@`. -/
  | leoKeywords
  /-- A name between `<<` and `>>`. -/
  | sectionRef
  /-- An address that starts with the name of a protocol. -/
  | url
  deriving DecidableEq, Repr

namespace Directive

/-- The words that Leo gives a meaning behind `@` (`LEO_DIRECTIVES`). -/
def leoWords : List String := [
  "all", "beautify", "c", "code", "color", "colorcache", "comment", "delims", "doc", "encoding",
  "end_raw", "first", "header", "ignore", "killbeautify", "killcolor", "language", "last",
  "lineending", "markup", "nobeautify", "nocolor", "nocolor-node", "noheader", "nopyflakes",
  "nosearch", "nowrap", "others", "pagewidth", "path", "quiet", "raw", "root", "root-code",
  "root-doc", "silent", "tabwidth", "terse", "unit", "verbose", "wrap"]

/-- The directives that open with `@`, in the order in which they are tried (`AT_FIRST_TO_LAST`). -/
def atDirectives : List Directive :=
  [docPart, wrap, noColorNode, noColor, language, killColor, color, leoKeywords]

/-- The first letters of the protocols that addresses start with (`URL_CHARS`). -/
def protocolInitials : List Char :=
  ['f', 'g', 'h', 'm', 'n', 'p', 't', 'w']

end Directive

end Highlighter
