import MediaNaming.Episode.BareNumber
import MediaNaming.Sector.Lexicon

/-
What a name tells about its episodes. The sectors around the block of evidence become the
series name and the episode title; the release year belongs to neither. When the block comes
first, a hyphen with spaces around it splits what follows into name and title.
-/
namespace MediaNaming

structure EpisodeParts where
  season : Option Nat
  episodes : List Nat
  block : Option (Nat × Nat)
  seriesName : Text
  episodeTitle : Text
deriving DecidableEq, Repr

def unknownSeries : Text := "Unknown".toList

def isHyphenOrBlank (c : Char) : Bool := c == '-' || isBlank c

def joinSectors (sectors : List Text) : Text := (Text.join [' '] sectors).trimEnds isHyphenOrBlank

def withoutYear (year : Int) (sectors : List Text) : List Text :=
  if year ≤ 0 then sectors
  else sectors.filter fun sector => withoutBrackets sector != Text.ofNumber year.toNat

/-- A name made of nothing but the year keeps it. -/
def joinName (year : Int) (sectors : List Text) : Text :=
  match joinSectors (withoutYear year sectors) with
  | [] => joinSectors sectors
  | name => name

def joinTitle (year : Int) (sectors : List Text) : Text := joinSectors (withoutYear year sectors)

/-- Name and title around the only hyphen, if it has a space on both sides. -/
def splitAtHyphen? (t : Text) : Option (Text × Text) :=
  match t.splitFirst? '-' with
  | none => none
  | some (left, right) =>
    if '-' ∉ right ∧ left.endsWith ' ' ∧ right.head? = some ' ' then some (left.trim, right.trim)
    else none

def nameAndTitle (sectors : List Text) (block : Option (Nat × Nat)) (year : Int) : Text × Text :=
  match block with
  | none => (joinName year sectors, [])
  | some (0, stop) =>
    let after := joinSectors (sectors.drop (stop + 1))
    (splitAtHyphen? after).getD ([], after)
  | some (start + 1, stop) =>
    (joinName year (sectors.take (start + 1)), joinTitle year (sectors.drop (stop + 1)))

def EpisodeParts.ofEvidence (sectors : List Text) (year : Int) (e : Evidence) : EpisodeParts :=
  let (name, title) := nameAndTitle sectors e.block year
  ⟨e.season, e.episodes, e.block, if name = [] then unknownSeries else name, title⟩

structure Extraction where
  parts : Except NamingError EpisodeParts
  sectors : List Text

/-- Reads the sectors of a name. `input` is the name that an error tells. -/
def extract (sectors : List Text) (year : Int) (input : Text) : Extraction :=
  match (Scan.start sectors).run input with
  | (scan, some e) => ⟨.error e, scan.sectors⟩
  | (scan, none) =>
    ⟨(scan.evidence.complete input scan.sectors).map (EpisodeParts.ofEvidence scan.sectors year),
      scan.sectors⟩

end MediaNaming
