/-
  Wiring.Text.Replace

  Replacing every occurrence of a word in a text, and cutting a text into lines.
-/

namespace Wiring.Text

/-- Replaces every occurrence of `word`, scanning from the left and going on behind each
    occurrence; `skip` characters of the last occurrence are still to be passed over. -/
def replaceFrom (word by' : List Char) : Nat → List Char → List Char
  | _, [] => []
  | skip + 1, _ :: rest => replaceFrom word by' skip rest
  | 0, c :: rest =>
    if word.isPrefixOf (c :: rest) then by' ++ replaceFrom word by' (word.length - 1) rest
    else c :: replaceFrom word by' 0 rest

/-- Replaces every occurrence of a word that is not empty. -/
def replaceAll (word by' text : String) : String :=
  String.ofList (replaceFrom word.toList by'.toList 0 text.toList)

/-- A line without the carriage return that stands before its line feed. -/
def dropReturn : List Char → List Char
  | [] => []
  | ['\r'] => []
  | c :: rest => c :: dropReturn rest

/-- Cuts a text into lines; `line` holds the characters of the line that is being read, in
    reverse. A line ends with a line feed, which a carriage return may precede; a last line
    without a line feed counts if it holds anything. -/
def linesFrom (line : List Char) : List Char → List (List Char)
  | [] => if line.isEmpty then [] else [line.reverse]
  | '\n' :: rest => dropReturn line.reverse :: linesFrom [] rest
  | c :: rest => linesFrom (c :: line) rest

/-- The lines of a text, without their ends. -/
def lines (text : String) : List String := (linesFrom [] text.toList).map String.ofList

/-- The text of lines, each ended by a line feed. -/
def unlines (lines : List String) : String := String.join (lines.map (· ++ "\n"))

/-- Cuts a list of characters at every character that `isMark` accepts; the marks are dropped. -/
def splitAtMarks (isMark : Char → Bool) : List Char → List (List Char)
  | [] => [[]]
  | c :: rest =>
    match splitAtMarks isMark rest with
    | [] => [[]]
    | part :: parts => if isMark c then [] :: part :: parts else (c :: part) :: parts

end Wiring.Text
