/-
  Wiring.Text.Blank

  White space as the Unicode property of that name has it, and trimming by it.
-/

namespace Wiring.Text

/-- The code points with the Unicode property White_Space, as ranges. -/
def blankRanges : List (Nat × Nat) :=
  [(0x09, 0x0d), (0x20, 0x20), (0x85, 0x85), (0xa0, 0xa0), (0x1680, 0x1680), (0x2000, 0x200a),
   (0x2028, 0x2029), (0x202f, 0x202f), (0x205f, 0x205f), (0x3000, 0x3000)]

/-- Whether a code point lies in one of the ranges, both ends included. -/
def inRanges (ranges : List (Nat × Nat)) (code : Nat) : Bool :=
  ranges.any fun range => range.1 ≤ code && code ≤ range.2

/-- White space. -/
def isBlank (c : Char) : Bool := inRanges blankRanges c.toNat

/-- Removes white space from the front of a list of characters. -/
def trimFront (cs : List Char) : List Char := cs.dropWhile isBlank

/-- Removes white space from both ends of a list of characters. -/
def trimChars (cs : List Char) : List Char := (trimFront (trimFront cs).reverse).reverse

/-- Removes white space from both ends of a text. -/
def trim (text : String) : String := String.ofList (trimChars text.toList)

/-- A text without any character but white space. -/
def isBlankText (text : String) : Bool := text.toList.all isBlank

end Wiring.Text
