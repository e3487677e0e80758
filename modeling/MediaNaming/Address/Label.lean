import MediaNaming.Address.Property.Direction
import MediaNaming.Address.Property.Joining
import MediaNaming.Text.Classes
import MediaNaming.Text.Quoted

/-
Labels of host names in any script. No label opens with a mark, an invisible joiner stands only
where it changes what is read, and in a name that is read from right to left anywhere each
label has one direction from its first character to its last.
-/
namespace MediaNaming

inductive Direction where
  | left
  | right
  | europeanDigit
  | arabicDigit
  | neutral
  | mark
deriving DecidableEq, Repr

def isMark (c : Char) : Bool := isExtending c || inRanges Property.spacingMarks c.toNat

def direction (c : Char) : Direction :=
  if inRanges Property.neutral c.toNat then .neutral
  else if inRanges Property.europeanDigits c.toNat then .europeanDigit
  else if inRanges Property.rightToLeft c.toNat then .right
  else if inRanges Property.arabicDigits c.toNat then .arabicDigit
  else if isExtending c && !inRanges Property.spacingMarks c.toNat then .mark
  else .left

namespace Label

def opensWithMark (label : Text) : Bool := label.head?.any isMark

def meets (property : List (Nat × Nat)) (t : Text) : Bool :=
  (t.dropWhile fun c => direction c == .mark).head?.any fun c => inRanges property c.toNat

/-- A joiner follows a virama, or parts two letters that would join. `before` stands before the
    text, last character first. -/
def joinsWithin (before : Text) : Text → Bool
  | [] => true
  | c :: rest =>
    (if c = '\u200c' ∨ c = '\u200d' then
        before.head?.any (fun b => inRanges Property.viramas b.toNat) ||
          (c == '\u200c' && meets Property.joinsNext before && meets Property.joinsPrevious rest)
      else true) && joinsWithin (c :: before) rest

def directions (label : Text) : List Direction := label.map direction

def readsRight (label : Text) : Bool :=
  (directions label).any fun d => d == .right || d == .arabicDigit

/-- The directions of a label agree with its first one, and its last character has one. -/
def isDirected (label : Text) : Bool :=
  let all := directions label
  let last := (all.reverse.dropWhile (· == .mark)).head?
  match all with
  | [] => true
  | .left :: _ =>
    all.all (fun d => d != .right && d != .arabicDigit) &&
      (last == some .left || last == some .europeanDigit)
  | .right :: _ =>
    all.all (· != .left) && last != some .neutral &&
      !(all.contains .europeanDigit && all.contains .arabicDigit)
  | _ => false

end Label
end MediaNaming
