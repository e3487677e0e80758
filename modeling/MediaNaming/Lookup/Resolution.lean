import MediaNaming.Lookup.Selections
import MediaNaming.Lookup.Service
import MediaNaming.Media.Episode

/-
Resolution of missing episode titles. A series is selected in three steps, each of them whole:
reading the selections, searching and choosing, and inserting what no one has inserted before.
Titles are all or nothing: one failure leaves the file without.
-/
namespace MediaNaming

variable {σ : Type}

structure Lookup (σ : Type) where
  service : Service σ
  chooser : Chooser σ := Chooser.first
  enabled : Bool := true
  alwaysConfirm : Bool := false

structure LookupState (σ : Type) where
  selections : Selections := {}
  outside : σ

namespace Lookup

def pick (lookup : Lookup σ) (series : Text) (candidates : List Candidate) (outside : σ) : Nat × σ :=
  match candidates with
  | [] => (0, outside)
  | [only] => if lookup.alwaysConfirm then lookup.chooser series [only] outside else (only.id, outside)
  | candidates => lookup.chooser series candidates outside

/-- Searches and chooses. A failed search proposes nothing. -/
def propose (lookup : Lookup σ) (series : Text) (outside : σ) : Option Nat × σ :=
  match lookup.service.search series outside with
  | (.error _, outside) => (none, outside)
  | (.ok candidates, outside) =>
    let (id, outside) := lookup.pick series candidates outside
    (some id, outside)

def nonzero? (id : Nat) : Option Nat := if id = 0 then none else some id

def selectSeries (lookup : Lookup σ) (series : Text) (s : LookupState σ) :
    Option Nat × LookupState σ :=
  match s.selections.get? series with
  | some id => (nonzero? id, s)
  | none =>
    match lookup.propose series s.outside with
    | (none, outside) => (none, { s with outside := outside })
    | (some proposed, outside) =>
      let (id, selections) := s.selections.insertIfAbsent series proposed
      (nonzero? id, ⟨selections, outside⟩)

/-- The titles of the episodes that have one, asked in order up to the first failure. -/
def askTitles (lookup : Lookup σ) (id season : Nat) : List Nat → σ → Option (List Text) × σ
  | [], outside => (some [], outside)
  | episode :: more, outside =>
    match lookup.service.episodeTitle id season episode outside with
    | (.error _, outside) => (none, outside)
    | (.ok title, outside) =>
      let (titles, outside) := lookup.askTitles id season more outside
      (titles.map ((title.filter fun t => t.trim != []).toList ++ ·), outside)

def resolveTitle (lookup : Lookup σ) (series : Text) (season : Nat) (episodes : List Nat)
    (s : LookupState σ) : Option Text × LookupState σ :=
  if ¬lookup.enabled ∨ episodes = [] then (none, s)
  else
    match lookup.selectSeries series s with
    | (none, s) => (none, s)
    | (some id, s) =>
      match lookup.askTitles id season episodes s.outside with
      | (some (title :: titles), outside) =>
        (some (Text.join " & ".toList (title :: titles)), { s with outside := outside })
      | (_, outside) => (none, { s with outside := outside })

end Lookup

abbrev Resolver (τ : Type) := Text → Nat → List Nat → τ → Option Text × τ

/-- The title of the file, which may have to be resolved. It is resolved once, for a file that has
    none and names its series and an episode, and kept even where it comes out empty. -/
def TitledEpisode.lookupTitle {τ : Type} (enabled : Bool) (resolve : Resolver τ)
    (e : TitledEpisode) (s : τ) : Text × TitledEpisode × τ :=
  if e.episode.episodeTitle ≠ [] then (e.episode.episodeTitle, e, s)
  else
    match e.resolved with
    | some title => (title, e, s)
    | none =>
      if e.episode.seriesName = unknownSeries ∨ e.episode.episodes = [] ∨ ¬enabled then ([], e, s)
      else
        let (found, s) := resolve e.episode.seriesName e.episode.season e.episode.episodes s
        let title := found.getD []
        (title, { e with resolved := some title }, s)

def Lookup.lookupTitle (lookup : Lookup σ) (e : TitledEpisode) (s : LookupState σ) :
    Text × TitledEpisode × LookupState σ :=
  e.lookupTitle lookup.enabled lookup.resolveTitle s

end MediaNaming
