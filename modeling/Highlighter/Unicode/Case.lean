import Highlighter.Unicode.CaseTables
import Highlighter.Unicode.Casing

/-!
# Upper case, lower case and case folding

Lower case of a text is not lower case of its characters: a capital sigma that ends a word becomes
the final small sigma.  `lowercase` follows that rule, which looks at the nearest characters on
either side that are not Case_Ignorable.  Case folding here is the simple one, from one character
to one character; `foldOrbit` lists everything that folds alike.
-/

namespace Highlighter.Unicode

/-- One character by runs, or several by a list of expansions, or the character itself. -/
private def mapCase (runs : List CaseRun) (expansions : List (Nat × List Nat)) (c : Char) :
    List Char :=
  match CaseRun.lookup runs c.toNat with
  | some code => [Char.ofNat code]
  | none =>
    match expansions.lookup c.toNat with
    | some codes => codes.map Char.ofNat
    | none => [c]

/-- The lower-case form of one character on its own. -/
def lowercaseChar (c : Char) : List Char :=
  mapCase lowercaseRuns lowercaseExpansions c

/-- The upper-case form of one character. -/
def uppercaseChar (c : Char) : List Char :=
  mapCase uppercaseRuns uppercaseExpansions c

/-- Whether the nearest character that a sigma does not look past is a cased letter. -/
def nextToCased (neighbours : List Char) : Bool :=
  ((neighbours.dropWhile caseIgnorable.contains).head?.map cased.contains).getD false

/-- The lower case of `rest`, given the characters before it from nearest to farthest.  A capital
sigma after a cased letter and not before one is written as a final sigma. -/
def lowercaseAfter (before : List Char) : List Char → List Char
  | [] => []
  | c :: rest =>
    (if c == 'Σ' then if nextToCased before && !nextToCased rest then ['ς'] else ['σ']
      else lowercaseChar c) ++ lowercaseAfter (c :: before) rest

/-- The lower case of a text. -/
def lowercase (text : String) : String :=
  String.ofList (lowercaseAfter [] text.toList)

/-- The simple case folding of a character. -/
def foldChar (c : Char) : Char :=
  match CaseRun.lookup foldingRuns c.toNat with
  | some code => Char.ofNat code
  | none => c

/-- Every character with the same simple case folding as `c`. -/
def foldOrbit (c : Char) : List Char :=
  let folded := foldChar c
  folded :: (CaseRun.preimages foldingRuns folded.toNat).map Char.ofNat

/-- The ASCII capitals as small letters, all else unchanged. -/
def asciiLower (c : Char) : Char :=
  if 'A' ≤ c ∧ c ≤ 'Z' then Char.ofNat (c.toNat + 32) else c

/-- Equality of characters up to the case of ASCII letters. -/
def equalIgnoringAsciiCase (c d : Char) : Bool :=
  asciiLower c == asciiLower d

end Highlighter.Unicode
