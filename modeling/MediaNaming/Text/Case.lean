import MediaNaming.Text.Classes
import MediaNaming.Text.Property.Cased
import MediaNaming.Text.Property.CaseIgnorable
import MediaNaming.Text.Property.CaseMap

/-
Full case mapping. One character may become several, and a capital sigma becomes the final
form at the end of a word: after a cased character and before none, case-ignorable ones apart.
-/
namespace MediaNaming

def Property.Shift.mapped? (s : Property.Shift) (n : Nat) : Option Nat :=
  if s.first ≤ n ∧ n ≤ s.last ∧ (n - s.first) % s.step = 0 then some (n - s.first + s.target)
  else none

def shifted : List Property.Shift → Nat → Option Nat
  | [], _ => none
  | s :: rest, n => if n < s.first then none else (s.mapped? n).or (shifted rest n)

def mapCase (shifts : List Property.Shift) (expansions : List (Nat × List Nat)) (c : Char) : Text :=
  match shifted shifts c.toNat with
  | some n => [Char.ofNat n]
  | none =>
    match expansions.lookup c.toNat with
    | some codes => codes.map Char.ofNat
    | none => [c]

def lower (c : Char) : Text := mapCase Property.lowerShifts Property.lowerExpansions c

def upper (c : Char) : Text := mapCase Property.upperShifts Property.upperExpansions c

def meetsCased (t : Text) : Bool :=
  match t.dropWhile fun c => inRanges Property.caseIgnorable c.toNat with
  | [] => false
  | c :: _ => inRanges Property.cased c.toNat

namespace Text

/-- Lowercase of a text that stands after `before`, which is given last character first. -/
def lowercaseAfter (before : Text) : Text → Text
  | [] => []
  | c :: rest =>
    (if c = 'Σ' then [if meetsCased before && !meetsCased rest then 'ς' else 'σ'] else lower c)
      ++ lowercaseAfter (c :: before) rest

def lowercase (t : Text) : Text := lowercaseAfter [] t

def capitalize : Text → Text
  | [] => []
  | c :: rest => if isLowercase c then upper c ++ rest else c :: rest

end Text
end MediaNaming
