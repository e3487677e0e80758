import MediaNaming.Text.Basic

/-
Numbers written in decimal. Reading takes the digits `0` to `9` only, after at most one plus
sign, and refuses a value above the limit; writing pads to two digits where a rule asks for it.
-/
namespace MediaNaming

/-- The largest season, episode or part number. -/
def wordLimit : Nat := 0xFFFFFFFF

/-- The largest series id and sector index. -/
def longLimit : Nat := 0xFFFFFFFFFFFFFFFF

namespace Text

def decimalValue (digits : Text) : Nat := digits.foldl (fun n c => 10 * n + (c.toNat - '0'.toNat)) 0

def withoutPlus : Text → Text
  | '+' :: digits => digits
  | t => t

def readNumber? (limit : Nat) (t : Text) : Option Nat :=
  let digits := withoutPlus t
  if digits ≠ [] ∧ digits.all Char.isDigit ∧ decimalValue digits ≤ limit then
    some (decimalValue digits)
  else none

def ofNumber (n : Nat) : Text := Nat.toDigits 10 n

def ofPadded (n : Nat) : Text := if n < 10 then '0' :: ofNumber n else ofNumber n

theorem readNumber?_le {limit n : Nat} {t : Text} (found : readNumber? limit t = some n) :
    n ≤ limit := by
  simp only [readNumber?] at found
  split at found
  · rename_i h
    cases found
    exact h.2.2
  · simp at found

end Text
end MediaNaming
