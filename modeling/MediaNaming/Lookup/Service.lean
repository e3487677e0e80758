import MediaNaming.Text.Numeral

/-
The outside of a title lookup: a service that is searched for series and asked for episodes,
and a chooser. Both may answer differently each time and may fail, so each takes the state of
the outside world and gives the next one.
-/
namespace MediaNaming

inductive LookupError where
  | transport (detail : Text)
  | decode (detail : Text)
  | status (code : Nat)
deriving DecidableEq, Repr

def LookupError.message : LookupError → Text
  | transport detail => "transport error: ".toList ++ detail
  | decode detail => "failed to decode response: ".toList ++ detail
  | status code => "unexpected HTTP status ".toList ++ Text.ofNumber code

structure Candidate where
  id : Nat
  displayName : Text
deriving DecidableEq, Repr

variable {σ : Type}

structure Service (σ : Type) where
  /-- The series that match a name, best first. -/
  search : Text → σ → Except LookupError (List Candidate) × σ
  /-- The title of an episode, by series, season and number, if it is known. -/
  episodeTitle : Nat → Nat → Nat → σ → Except LookupError (Option Text) × σ

/-- Picks the id of a candidate; 0 picks none. -/
abbrev Chooser (σ : Type) := Text → List Candidate → σ → Nat × σ

def Chooser.first : Chooser σ := fun _ candidates outside =>
  ((candidates.head?.map Candidate.id).getD 0, outside)

end MediaNaming
