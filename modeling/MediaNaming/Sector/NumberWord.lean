import MediaNaming.Text.Numeral
import MediaNaming.Text.Case

/- A number that stands alone in a sector: digits, an English word or a Roman numeral. -/
namespace MediaNaming

inductive NumberWord where
  | value (n : Nat)
  /-- Digits whose value is out of range. -/
  | unconvertible
deriving DecidableEq, Repr

namespace NumberWord

def words : List Text :=
  ["zero".toList, "one".toList, "two".toList, "three".toList, "four".toList, "five".toList,
    "six".toList, "seven".toList, "eight".toList, "nine".toList, "ten".toList]

def romans : List Text :=
  ["i".toList, "ii".toList, "iii".toList, "iv".toList, "v".toList, "vi".toList, "vii".toList,
    "viii".toList, "ix".toList, "x".toList]

def ofSector? (sector : Text) : Option NumberWord :=
  if sector ≠ [] ∧ sector.all Char.isDigit then
    some (match sector.readNumber? wordLimit with
      | some n => .value n
      | none => .unconvertible)
  else
    let low := sector.lowercase
    ((words.idxOf? low).map .value).or ((romans.idxOf? low).map fun i => .value (i + 1))

def value? : NumberWord → Option Nat
  | value n => some n
  | unconvertible => none

end NumberWord
end MediaNaming
