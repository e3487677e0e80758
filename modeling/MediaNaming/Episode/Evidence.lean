import MediaNaming.Error
import MediaNaming.Episode.Marks

/-
Evidence for season and episodes, gathered from the sectors in one scan. A step either passes
one sector, or two of a pair such as `Season 2`, or respells the sector under it, which then
holds one cross less. So the scan ends, and an error leaves the sectors as they are by then.
-/
namespace MediaNaming

structure Evidence where
  season : Option Nat := none
  episodes : List Nat := []
  /-- The first and the last sector that hold evidence. -/
  block : Option (Nat × Nat) := none
deriving DecidableEq, Repr

namespace Evidence

/-- A season may be asserted twice but not changed. -/
def assertSeason (input : Text) (season : Nat) (e : Evidence) : Except NamingError Evidence :=
  match e.season with
  | some first =>
    if first = season then .ok e else .error (.conflictingSeasons first season input)
  | none => .ok { e with season := some season }

def cover (index : Nat) (e : Evidence) : Evidence :=
  { e with block := some (match e.block with
      | some (start, stop) => (min start index, max stop index)
      | none => (index, index)) }

def addEpisodes (episodes : List Nat) (e : Evidence) : Evidence :=
  { e with episodes := e.episodes ++ episodes }

end Evidence

inductive PairWord where
  | season
  | episode
deriving DecidableEq, Repr

def PairWord.ofSector? (sector : Text) : Option PairWord :=
  if Text.isWord "season".toList sector then some .season
  else if Text.isWord "episode".toList sector then some .episode
  else none

structure Scan where
  done : List Text
  rest : List Text
  evidence : Evidence
deriving DecidableEq, Repr

namespace Scan

def start (sectors : List Text) : Scan := ⟨[], sectors, {}⟩

def sectors (s : Scan) : List Text := s.done ++ s.rest

def pass (sector : Text) (rest : List Text) (evidence : Evidence) (s : Scan) : Scan :=
  ⟨s.done ++ [sector], rest, evidence⟩

/-- The pair of a word and a number. An episode pair takes the place of all earlier episodes. -/
def passPair (input : Text) (word : PairWord) (number : Nat) (sector next : Text)
    (rest : List Text) (s : Scan) : Except NamingError Scan := do
  let evidence ← match word with
    | .season => s.evidence.assertSeason input number
    | .episode => .ok { s.evidence with episodes := [number] }
  let index := s.done.length
  .ok ⟨s.done ++ [sector, next], rest, (evidence.cover index).cover (index + 1)⟩

def pair? (sector : Text) : List Text → Option (PairWord × Nat × Text × List Text)
  | [] => none
  | next :: later =>
    match PairWord.ofSector? sector, shortNumber? next with
    | some word, some number => some (word, number, next, later)
    | _, _ => none

def step (input : Text) (s : Scan) : Except NamingError Scan :=
  match s.rest with
  | [] => .ok s
  | sector :: rest =>
    let index := s.done.length
    match seasonMarks sector, episodeMarks sector with
    | [season], episodes => do
      let evidence ← s.evidence.assertSeason input season
      .ok (s.pass sector rest ((evidence.addEpisodes episodes).cover index))
    | [], e :: episodes =>
      .ok (s.pass sector rest ((s.evidence.addEpisodes (e :: episodes)).cover index))
    | [], [] =>
      match crossMarks sector with
      | [mark] => .ok { s with rest := mark.respelled :: rest }
      | [] =>
        match pair? sector rest with
        | some (word, number, next, later) => s.passPair input word number sector next later
        | none => .ok (s.pass sector rest s.evidence)
      | _ => .error (.ambiguousSector sector)
    | _, _ => .error (.ambiguousSector sector)

/-- Each sector counts one, and so does each cross in it. -/
def weight : List Text → Nat
  | [] => 0
  | s :: sectors => 1 + s.countP isCross + weight sectors

@[simp] theorem weight_cons (s : Text) (sectors : List Text) :
    weight (s :: sectors) = 1 + s.countP isCross + weight sectors := rfl

theorem pair?_rest {sector next : Text} {rest later : List Text} {word : PairWord} {number : Nat}
    (found : pair? sector rest = some (word, number, next, later)) : rest = next :: later := by
  cases rest with
  | nil => simp [pair?] at found
  | cons n more =>
    simp only [pair?] at found
    split at found
    · cases found; rfl
    · simp at found

theorem passPair_rest {input sector next : Text} {word : PairWord} {number : Nat}
    {rest : List Text} {s after : Scan}
    (stepped : s.passPair input word number sector next rest = .ok after) :
    after.rest = rest := by
  cases word with
  | season =>
    simp only [passPair, bind, Except.bind] at stepped
    split at stepped
    · simp at stepped
    · cases stepped; rfl
  | episode => cases stepped; rfl

theorem step_weight_lt {input : Text} {s after : Scan} (more : s.rest ≠ [])
    (stepped : s.step input = .ok after) : weight after.rest < weight s.rest := by
  simp only [step] at stepped
  split at stepped
  · contradiction
  · rename_i sector rest eq
    rw [eq, weight_cons]
    split at stepped
    · simp only [bind, Except.bind] at stepped
      split at stepped
      · simp at stepped
      · cases stepped; simp only [pass]; omega
    · cases stepped; simp only [pass]; omega
    · split at stepped
      · rename_i mark marks
        cases stepped
        have : mark ∈ crossMarks sector := by simp [marks]
        have := crossMarks_crosses this
        simp
        omega
      · split at stepped
        · rename_i found
          rw [passPair_rest stepped, pair?_rest found, weight_cons]
          omega
        · cases stepped; simp only [pass]; omega
      · simp at stepped
    · simp at stepped

def run (input : Text) (s : Scan) : Scan × Option NamingError :=
  if s.rest = [] then (s, none)
  else
    match _stepped : s.step input with
    | .ok after => run input after
    | .error e => (s, some e)
termination_by weight s.rest
decreasing_by exact step_weight_lt ‹_› ‹_›

end Scan
end MediaNaming
