/-!
# Cutting and joining text

Text is cut at separator characters and at line ends, joined again, stripped of characters at its
ends, and searched for patterns. Every function works on the list of characters of its text and
recurses on that list; the versions on strings go through it.
-/

namespace SoapClasses

def isWhiteSpace (c : Char) : Bool :=
  let n := c.toNat
  (9 ≤ n && n ≤ 13) || n == 0x20 || n == 0x85 || n == 0xA0 || n == 0x1680
    || (0x2000 ≤ n && n ≤ 0x200A) || n == 0x2028 || n == 0x2029 || n == 0x202F || n == 0x205F
    || n == 0x3000

/-- Whether nothing but white space stands in the text. -/
def isBlank (text : String) : Bool :=
  text.toList.all isWhiteSpace

/-- The pieces between the separators; there is always one more piece than there are separators. -/
def piecesOf (isSeparator : Char → Bool) : List Char → List (List Char)
  | [] => [[]]
  | c :: rest =>
    if isSeparator c then [] :: piecesOf isSeparator rest
    else match piecesOf isSeparator rest with
      | [] => [[c]]
      | piece :: pieces => (c :: piece) :: pieces

def splitText (isSeparator : Char → Bool) (text : String) : List String :=
  (piecesOf isSeparator text.toList).map String.ofList

/-- The texts in order, with the separator between neighbours. -/
def joinText (separator : String) : List String → String
  | [] => ""
  | [text] => text
  | text :: next :: rest => text ++ separator ++ joinText separator (next :: rest)

/-- The lines in order, each with a line feed behind it. -/
def unlines : List String → String
  | [] => ""
  | line :: rest => line ++ "\n" ++ unlines rest

/-- The blocks of lines in order, with one empty line between neighbours. -/
def spacedBlocks (blocks : List (List String)) : List String :=
  (blocks.intersperse [""]).flatten

/-- A line without the carriage return that ends it, if there is one. -/
def dropReturn : List Char → List Char
  | [] => []
  | ['\r'] => []
  | c :: rest => c :: dropReturn rest

/-- The lines among the pieces between line feeds: each piece that a line feed follows, without one
carriage return at its end, and the last piece unless it is empty. -/
def linesOfPieces : List (List Char) → List (List Char)
  | [] => []
  | [piece] => if piece.isEmpty then [] else [piece]
  | piece :: next :: rest => dropReturn piece :: linesOfPieces (next :: rest)

/-- The lines of a text. A line feed ends a line, and one carriage return directly before it belongs
to the line end; a text that ends in a line feed has no further, empty line. -/
def textLines (text : String) : List String :=
  (linesOfPieces (piecesOf (· == '\n') text.toList)).map String.ofList

/-- The text without the run of characters of the class at its start. -/
def dropLeading (isDropped : Char → Bool) (text : String) : String :=
  String.ofList (text.toList.dropWhile isDropped)

/-- The characters without the run of the class at either end. -/
def trimmed (isDropped : Char → Bool) (text : List Char) : List Char :=
  ((text.dropWhile isDropped).reverse.dropWhile isDropped).reverse

/-- The text without the runs of characters of the class at both ends. -/
def trimText (isDropped : Char → Bool) (text : String) : String :=
  String.ofList (trimmed isDropped text.toList)

/-- Replaces every occurrence of a nonempty pattern, from left to right. The counter is the number of
characters that still belong to the last occurrence found. -/
def replaceFrom (pattern replacement : List Char) : Nat → List Char → List Char
  | _, [] => []
  | pending + 1, _ :: rest => replaceFrom pattern replacement pending rest
  | 0, c :: rest =>
    if pattern.isPrefixOf (c :: rest) then
      replacement ++ replaceFrom pattern replacement (pattern.length - 1) rest
    else c :: replaceFrom pattern replacement 0 rest

/-- The text with every occurrence of a nonempty pattern replaced, from left to right. -/
def replaceText (pattern replacement text : String) : String :=
  String.ofList (replaceFrom pattern.toList replacement.toList 0 text.toList)

end SoapClasses
