import EntitySearch.Text.Basic
import EntitySearch.Text.Ranges
/-!
# Blank characters

The blank characters are the white space of all scripts together with the four information
separators. A text is cut into its maximal runs of other characters (`splitBlank`) and freed of
blanks at both ends (`strip`).
-/

namespace EntitySearch.Text

/-- The blank characters, as ascending code point ranges. -/
def blankRanges : List (Nat × Nat) :=
   [(0x9, 0xD), (0x1C, 0x20), (0x85, 0x85), (0xA0, 0xA0), (0x1680, 0x1680), (0x2000, 0x200A),
    (0x2028, 0x2029), (0x202F, 0x202F), (0x205F, 0x205F), (0x3000, 0x3000)]

/-- Whether a code point is blank. -/
def isBlank (c : CodePoint) : Bool := inRanges blankRanges c.code

/-- The runs of characters that are not blank; `run` holds the current one, last character
first. -/
def splitBlankFrom (run : Text) : Text → List Text
  | [] => if run.isEmpty then [] else [run.reverse]
  | c :: rest =>
    if isBlank c then
      if run.isEmpty then splitBlankFrom [] rest else run.reverse :: splitBlankFrom [] rest
    else splitBlankFrom (c :: run) rest

/-- The maximal runs of characters that are not blank, from left to right. -/
def splitBlank (text : Text) : List Text := splitBlankFrom [] text

/-- The text without the blanks at its end. -/
def stripEnd (text : Text) : Text := (text.reverse.dropWhile isBlank).reverse

/-- The text without the blanks at its two ends. -/
def strip (text : Text) : Text := stripEnd (text.dropWhile isBlank)

end EntitySearch.Text
