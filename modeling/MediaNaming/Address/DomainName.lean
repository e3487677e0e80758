import MediaNaming.Address.Label
import MediaNaming.Address.Property.Form
import MediaNaming.Address.Punycode
import MediaNaming.Text.Case

/-
Names of hosts. A name is taken in small letters, each character by what it stands for, and
split into labels at the dots. What could be written composed is not asked to be.
-/
namespace MediaNaming
namespace DomainName

def reserved : Text := "%#/:<>?@[\\]^|".toList

def isJoiner (c : Char) : Bool := c == '\u200c' || c == '\u200d'

/-- The capitals of Cherokee, which are older than its small letters. -/
def keepsCase (c : Char) : Bool := '\u13a0' ≤ c && c ≤ '\u13f5'

def form? (c : Char) : Option Text :=
  if inRanges Property.traceless c.toNat then some []
  else
    match shifted Property.asciiForms c.toNat with
    | some n => some [Char.ofNat n]
    | none =>
      if isJoiner c || keepsCase c then some [c]
      else if isBlank c || !isPrintable c then none
      else if reserved.contains c || inRanges Property.barred c.toNat then none
      else some (lower c)

def isOwnForm (c : Char) : Bool := form? c == some [c] && !inRanges Property.aliases c.toNat

/-- The label that a part of a name stands for. After `xn--` stands the code of a label that
    needs one. -/
def label? (part : Text) : Option Text :=
  match Text.afterLead? "xn--".toList part with
  | none => some part
  | some code =>
    (Punycode.decode? code).filter fun label => !Punycode.isAscii label && label.all isOwnForm

def areLabels (labels : List Text) : Bool :=
  labels.all (fun label => !Label.opensWithMark label && Label.joinsWithin [] label) &&
    (!labels.any Label.readsRight || labels.all Label.isDirected)

def ofText? (t : Text) : Option Text := do
  let name : Text := (← t.mapM form?).flatten
  let labels ← (name.pieces (· == '.')).mapM label?
  if areLabels labels then some name else none

end DomainName
end MediaNaming
