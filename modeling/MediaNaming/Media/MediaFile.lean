import MediaNaming.Sector.Refinement
import MediaNaming.Sector.Split
import MediaNaming.Template.Directive

/- What every media file has: the parts of its raw name, and what refinement finds in them. -/
namespace MediaNaming

structure MediaFile where
  rawName : Text
  extension : Text
  location : Text
  /-- The year, or -1. -/
  year : Int
  /-- The part, or 0. -/
  part : Nat
  quality : Option Quality
  sectors : List Text
deriving DecidableEq, Repr

namespace MediaFile

def ofName? (classifier : Classifier) (input : Text) : Except NamingError MediaFile := do
  let split ← SplitName.ofPath? input
  let refined := refine classifier (sectorsOf split.name)
  return ⟨split.name, split.extension, split.location, refined.year, refined.part,
    refined.quality, refined.sectors⟩

def cleanName (m : MediaFile) : Text := Text.join [' '] m.sectors

def yearText (m : MediaFile) : Text := if 0 < m.year then Text.ofNumber m.year.toNat else []

def partText (m : MediaFile) : Text := if 0 < m.part then Text.ofNumber m.part else []

def qualityText (m : MediaFile) : Text :=
  match m.quality with
  | some quality => quality.label
  | none => []

def fields (m : MediaFile) : Fields
  | 'L' => some m.location
  | 'O' => some m.rawName
  | 'C' => some m.cleanName
  | 'E' => some m.extension
  | 'Y' => some m.yearText
  | 'P' => some m.partText
  | 'Q' => some m.qualityText
  | _ => none

end MediaFile
end MediaNaming
