import EntitySearch.Text.Word
import EntitySearch.Text.Lowercase
/-!
# Highlighting

A snippet shows the first matching word of a text between marks, with up to 32 characters on either
side; an ellipsis stands where the text goes on. A word matches a prefix if its lower-cased form
begins with it.
-/

namespace EntitySearch.Highlight

open Text (WordAt wordsAt lower)

/-- How many characters are shown on either side of the marked word. -/
def margin : Nat := 32

/-- How many characters are shown of a text without a match. -/
def width : Nat := 64

/-- Whether a word begins with one of the prefixes, in lower case. -/
def matchesAny (prefixes : List Text) (word : Text) : Bool :=
  prefixes.any (fun p => p.isPrefixOf (lower word))

/-- What stands for text that is left out. -/
def ellipsis (wanted : Bool) : Text := if wanted then "..." else []

/-- A word between marks, with its surroundings. -/
def mark (w : WordAt) : Text :=
  ellipsis (decide (margin < w.before.length)) ++ (w.before.take margin).reverse
    ++ "<mark>" ++ w.word ++ "</mark>"
    ++ w.after.take margin ++ ellipsis (decide (margin < w.after.length))

/-- The snippet of a text: its first matching word between marks, or just its beginning. -/
def snippet (prefixes : List Text) (text : Text) : Text :=
  match (wordsAt text).find? (fun w => matchesAny prefixes w.word) with
  | some w => mark w
  | none => text.take width

end EntitySearch.Highlight
