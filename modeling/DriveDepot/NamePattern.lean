import DriveDepot.Category
import DriveDepot.Text

namespace DriveDepot

inductive CharClass
  | hexDigit
  | decimalDigit
  | notHyphen
  | notLineFeed
  deriving DecidableEq, Repr

/-- Hexadecimal digits are the lower-case ones; decimal digits are those of every script. -/
def CharClass.contains : CharClass → Char → Bool
  | .hexDigit, c => ('0' ≤ c && c ≤ '9') || ('a' ≤ c && c ≤ 'f')
  | .decimalDigit, c => Text.isDecimalDigit c
  | .notHyphen, c => c ≠ '-'
  | .notLineFeed, c => c ≠ '\n'

namespace NamePattern

inductive Piece
  | oneOf (words : List String)
  /-- One or more characters of a class. -/
  | run (chars : CharClass)
  deriving DecidableEq, Repr

/-- What may be left after a run of characters, of which one is already read. -/
def restsOfRun (chars : CharClass) : List Char → List (List Char)
  | [] => [[]]
  | c :: rest =>
    if chars.contains c then (c :: rest) :: restsOfRun chars rest else [c :: rest]

/-- What may be left of a text after the piece at its front. -/
def Piece.rests : Piece → List Char → List (List Char)
  | .oneOf words, cs => words.filterMap fun w => w.toList.isPrefixOf? cs
  | .run _, [] => []
  | .run chars, c :: rest => if chars.contains c then restsOfRun chars rest else []

end NamePattern

abbrev NamePattern := List NamePattern.Piece

namespace NamePattern

/-- Whether the pattern matches the text as a whole. -/
def matchesAll : NamePattern → List Char → Bool
  | [], cs => cs.isEmpty
  | piece :: others, cs => (piece.rests cs).any (matchesAll others)

def accepts (pattern : NamePattern) (name : String) : Bool := pattern.matchesAll name.toList

end NamePattern

namespace Category

/-- The one name of the file that marks a repository. -/
def markerName : String := "syncany"

def pattern : Category → NamePattern
  | .content => [.oneOf ["multichunk-"], .run .hexDigit]
  | .metadataDb => [.oneOf ["db-"], .run .notHyphen, .oneOf ["-"], .run .decimalDigit]
  | .cleanup => [.oneOf ["cleanup-"], .run .decimalDigit]
  | .action =>
    [.oneOf ["action-"], .oneOf ["up", "down", "cleanup"], .oneOf ["-"], .run .notHyphen,
     .oneOf ["-"], .run .decimalDigit]
  | .transaction => [.oneOf ["transaction-"], .run .notHyphen, .oneOf ["-"], .run .decimalDigit]
  | .temp => [.oneOf ["temp-"], .run .notLineFeed]
  | .repositoryMarker => [.oneOf [markerName]]
  | .generic => [.run .notLineFeed]

def accepts (category : Category) (name : String) : Bool := category.pattern.accepts name

end Category

end DriveDepot
