import MediaNaming.Text.Basic
import MediaNaming.Text.Property.Decimal
import MediaNaming.Text.Property.Numeric
import MediaNaming.Text.Property.Alphabetic
import MediaNaming.Text.Property.RecentAlphabetic
import MediaNaming.Text.Property.Lowercase
import MediaNaming.Text.Property.Uppercase
import MediaNaming.Text.Property.Blank

/-
Character classes over the whole of Unicode, read from the property tables. A table lists
its ranges in increasing order, so a search stops at the first range that begins too late.
The shape of a sector goes by version 16 of the standard, all else by version 17.
-/
namespace MediaNaming

def inRanges : List (Nat × Nat) → Nat → Bool
  | [], _ => false
  | (first, last) :: rest, n => first ≤ n && (n ≤ last || inRanges rest n)

def isDecimal (c : Char) : Bool := inRanges Property.decimal c.toNat

def isAlphabetic (c : Char) : Bool := inRanges Property.alphabetic c.toNat

/-- A letter that may open the word glued to a number: alphabetic since version 16 at least. -/
def isWordLetter (c : Char) : Bool := isAlphabetic c && !inRanges Property.recentAlphabetic c.toNat

def isAlphanumeric (c : Char) : Bool := isAlphabetic c || inRanges Property.numeric c.toNat

def isLowercase (c : Char) : Bool := inRanges Property.lowercase c.toNat

def isUppercase (c : Char) : Bool := inRanges Property.uppercase c.toNat

def isBlank (c : Char) : Bool := inRanges Property.blank c.toNat

def Text.trim (t : Text) : Text := t.trimEnds isBlank

/-- A letter of a Latin marker word in either case. Case folding also takes the long s for `s`
    and the Kelvin sign for `k`. -/
def isLetter (letter c : Char) : Bool :=
  c == letter || c == letter.toUpper || (letter == 's' && c == 'ſ') || (letter == 'k' && c == '\u212a')

def Text.afterWord? : Text → Text → Option Text
  | [], t => some t
  | _ :: _, [] => none
  | letter :: word, c :: t => if isLetter letter c then afterWord? word t else none

def Text.isWord (word t : Text) : Bool := t.map Char.toLower == word

end MediaNaming
