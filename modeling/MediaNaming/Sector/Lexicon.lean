import MediaNaming.Quality
import MediaNaming.Text.Numeral
import MediaNaming.Text.Case

/-
Release junk. A classifier looks at one sector and notes its findings: where the junk begins
(the smallest index wins), the year (the last one wins) and the quality (the first one wins).
A lexicon classifies by a set of lowercase tags.
-/
namespace MediaNaming

structure Findings where
  junkStart : Option Nat := none
  year : Option Int := none
  quality : Option Quality := none
deriving DecidableEq, Repr

namespace Findings

def markJunk (f : Findings) (index : Nat) : Findings :=
  { f with junkStart := some (match f.junkStart with
      | some start => min start index
      | none => index) }

def recordYear (f : Findings) (year : Int) : Findings := { f with year := some year }

def recordQuality (f : Findings) (quality : Quality) : Findings :=
  { f with quality := f.quality.or (some quality) }

end Findings

/-- Given all sectors and the index of one of them, adds what that sector shows. -/
abbrev Classifier := List Text → Nat → Findings → Findings

def Classifier.silent : Classifier := fun _ _ findings => findings

structure Lexicon where
  tags : List Text
  cutsAtYear : Bool
deriving DecidableEq, Repr

namespace Lexicon

def resolutionTags : List Text :=
  ["480p".toList, "480i".toList, "576p".toList, "576i".toList, "720p".toList, "1080p".toList,
    "1080i".toList, "2160p".toList, "4k".toList, "uhd".toList]

def releaseTags : List Text :=
  ["bluray".toList, "blu-ray".toList, "bdrip".toList, "brrip".toList, "bdremux".toList,
    "remux".toList, "dvdrip".toList, "dvd".toList, "dvdscr".toList, "hdtv".toList, "pdtv".toList,
    "sdtv".toList, "webrip".toList, "webdl".toList, "web-dl".toList, "hdrip".toList,
    "hdcam".toList, "telesync".toList, "x264".toList, "x265".toList, "h264".toList,
    "h265".toList, "hevc".toList, "avc".toList, "xvid".toList, "divx".toList, "av1".toList,
    "10bit".toList, "hdr".toList, "aac".toList, "ac3".toList, "dts".toList, "flac".toList,
    "mp3".toList, "dd5".toList, "ddp5".toList, "truehd".toList, "atmos".toList,
    "proper".toList, "repack".toList, "internal".toList, "limited".toList, "unrated".toList,
    "dubbed".toList, "subbed".toList, "multi".toList, "retail".toList]

/-- For movies: the name ends where the year stands. -/
def movies : Lexicon := ⟨resolutionTags ++ releaseTags, true⟩

/-- For episodes: the season and the title may follow the year. -/
def episodes : Lexicon := ⟨resolutionTags ++ releaseTags, false⟩

def withTags (lexicon : Lexicon) (tags : List Text) : Lexicon :=
  { lexicon with tags := lexicon.tags ++ tags.map Text.lowercase }

/-- A tag, alone or glued by a hyphen to the name of a release group. -/
def isTag (lexicon : Lexicon) (word : Text) : Bool :=
  lexicon.tags.contains word ||
    match word.splitFirst? '-' with
    | some (head, _) => lexicon.tags.contains head
    | none => false

end Lexicon

def isBracket (c : Char) : Bool := ['(', ')', '[', ']', '\x7b', '\x7d'].contains c

def withoutBrackets (t : Text) : Text := t.trimEnds isBracket

def year? (t : Text) : Option Int :=
  if t.length = 4 ∧ t.all Char.isDigit ∧ 1900 ≤ t.decimalValue ∧ t.decimalValue ≤ 2099 then
    some t.decimalValue
  else none

def Lexicon.classify (lexicon : Lexicon) : Classifier := fun sectors index findings =>
  match sectors[index]? with
  | none => findings
  | some sector =>
    let low := sector.lowercase
    let core := withoutBrackets low
    match year? core with
    | some year =>
      let findings := findings.recordYear year
      if lexicon.cutsAtYear ∧ 0 < index then findings.markJunk index else findings
    | none =>
      let findings := match Quality.ofTag? core with
        | some quality => findings.recordQuality quality
        | none => findings
      let bracketed := low.head? = some '[' ∨ low.head? = some '\x7b'
      if lexicon.isTag core ∨ (bracketed ∧ 0 < index) then findings.markJunk index else findings

end MediaNaming
