import MediaNaming.Lookup.Resolution

/-
Listening to a lookup. A listener stands between a lookup and its outside and writes down each
search and each choice with its answer. It changes nothing else, so what is heard is what the lookup
asks by itself.
-/
namespace MediaNaming

variable {σ : Type}

inductive LookupEvent
  | searched (series : Text) (answer : Except LookupError (List Candidate))
  | chose (series : Text) (candidates : List Candidate) (id : Nat)

abbrev Heard (σ : Type) := σ × List LookupEvent

def Service.heard (service : Service σ) : Service (Heard σ) where
  search series outside :=
    let (answer, next) := service.search series outside.1
    (answer, next, outside.2 ++ [.searched series answer])
  episodeTitle id season number outside :=
    let (answer, next) := service.episodeTitle id season number outside.1
    (answer, next, outside.2)

def Chooser.heard (chooser : Chooser σ) : Chooser (Heard σ) := fun series candidates outside =>
  let (id, next) := chooser series candidates outside.1
  (id, next, outside.2 ++ [.chose series candidates id])

def Lookup.heard (lookup : Lookup σ) : Lookup (Heard σ) where
  service := lookup.service.heard
  chooser := lookup.chooser.heard
  enabled := lookup.enabled
  alwaysConfirm := lookup.alwaysConfirm

def LookupState.heard (s : LookupState σ) (log : List LookupEvent) : LookupState (Heard σ) :=
  ⟨s.selections, s.outside, log⟩

/-- How an id is picked among candidates: no id where there are none, the only one, or the answer of
    the chooser. -/
inductive Picked (series : Text) : List Candidate → List LookupEvent → Nat → Prop
  | none : Picked series [] [] 0
  | only (c : Candidate) : Picked series [c] [] c.id
  | asked {candidates : List Candidate} (some : candidates ≠ []) (id : Nat) :
      Picked series candidates [.chose series candidates id] id

inductive Selected (series : Text) : Selections → List LookupEvent → Selections → Prop
  | stored {s : Selections} {id : Nat} (known : s.get? series = some id) : Selected series s [] s
  | failed {s : Selections} (unknown : s.get? series = none) (e : LookupError) :
      Selected series s [.searched series (.error e)] s
  | chosen {s : Selections} (unknown : s.get? series = none) {candidates : List Candidate}
      {choice : List LookupEvent} {id : Nat} (picked : Picked series candidates choice id) :
      Selected series s (.searched series (.ok candidates) :: choice) (s.insertIfAbsent series id).2

namespace Lookup

theorem pick_heard (lookup : Lookup σ) (series : Text) (candidates : List Candidate) (outside : σ)
    (log : List LookupEvent) :
    ∃ choice, Picked series candidates choice (lookup.pick series candidates outside).1 ∧
      lookup.heard.pick series candidates (outside, log) =
        ((lookup.pick series candidates outside).1, (lookup.pick series candidates outside).2,
          log ++ choice) := by
  match candidates with
  | [] => exact ⟨[], .none, by simp [pick]⟩
  | [only] =>
    by_cases confirm : lookup.alwaysConfirm = true
    · exact ⟨_, .asked (by simp) _, by simp [pick, heard, confirm, Chooser.heard]⟩
    · refine ⟨[], ?_, ?_⟩
      · simpa only [pick, if_neg confirm] using Picked.only only
      · simp [pick, heard, confirm]
  | first :: second :: more => exact ⟨_, .asked (by simp) _, rfl⟩

theorem selectSeries_heard (lookup : Lookup σ) (series : Text) (s : LookupState σ)
    (log : List LookupEvent) :
    ∃ new, Selected series s.selections new (lookup.selectSeries series s).2.selections ∧
      lookup.heard.selectSeries series (s.heard log) =
        ((lookup.selectSeries series s).1,
          (lookup.selectSeries series s).2.heard (log ++ new)) := by
  cases known : s.selections.get? series with
  | some id =>
    refine ⟨[], ?_, ?_⟩
    · simpa only [selectSeries, known] using Selected.stored known
    · simp [selectSeries, known, LookupState.heard]
  | none =>
    rcases answered : lookup.service.search series s.outside with ⟨answer, outside⟩
    cases answer with
    | error e =>
      refine ⟨[.searched series (.error e)], ?_, ?_⟩
      · simpa only [selectSeries, propose, known, answered] using Selected.failed known e
      · simp [selectSeries, propose, heard, Service.heard, LookupState.heard, known, answered]
    | ok candidates =>
      obtain ⟨choice, picked, same⟩ :=
        lookup.pick_heard series candidates outside (log ++ [.searched series (.ok candidates)])
      refine ⟨.searched series (.ok candidates) :: choice, ?_, ?_⟩
      · simpa only [selectSeries, propose, known, answered] using Selected.chosen known picked
      · simp only [selectSeries, propose, LookupState.heard, known, answered]
        have searched : lookup.heard.service.search series (s.outside, log) =
            (.ok candidates, outside, log ++ [.searched series (.ok candidates)]) := by
          simp [heard, Service.heard, answered]
        simp [searched, same]

theorem askTitles_heard (lookup : Lookup σ) (id season : Nat) (episodes : List Nat) (outside : σ)
    (log : List LookupEvent) :
    lookup.heard.askTitles id season episodes (outside, log) =
      ((lookup.askTitles id season episodes outside).1,
        (lookup.askTitles id season episodes outside).2, log) := by
  induction episodes generalizing outside with
  | nil => rfl
  | cons episode more ih =>
    rcases answered : lookup.service.episodeTitle id season episode outside with ⟨answer, next⟩
    have asked : lookup.heard.service.episodeTitle id season episode (outside, log) =
        (answer, next, log) := by
      simp [heard, Service.heard, answered]
    cases answer with
    | error e => simp [askTitles, answered, asked]
    | ok title => simp [askTitles, answered, asked, ih]

/-- A title is resolved by selecting the series and asking for the episodes; of the latter nothing
    is heard. -/
theorem resolveTitle_heard (lookup : Lookup σ) (series : Text) (season : Nat) (episodes : List Nat)
    (s : LookupState σ) (log : List LookupEvent) (active : lookup.enabled = true)
    (some : episodes ≠ []) :
    ∃ new,
      Selected series s.selections new
        (lookup.resolveTitle series season episodes s).2.selections ∧
      lookup.heard.resolveTitle series season episodes (s.heard log) =
        ((lookup.resolveTitle series season episodes s).1,
          (lookup.resolveTitle series season episodes s).2.heard (log ++ new)) := by
  obtain ⟨new, selected, same⟩ := lookup.selectSeries_heard series s log
  have guard : ¬ (¬ lookup.enabled = true ∨ episodes = []) := by simp [active, some]
  have heard_guard : ¬ (¬ lookup.heard.enabled = true ∨ episodes = []) := guard
  refine ⟨new, ?_⟩
  simp only [resolveTitle, if_neg guard, if_neg heard_guard, same]
  rcases selection : lookup.selectSeries series s with ⟨_ | id, next⟩ <;> rw [selection] at selected
  · exact ⟨selected, rfl⟩
  · simp only [LookupState.heard, askTitles_heard]
    rcases lookup.askTitles id season episodes next.outside with ⟨_ | _ | ⟨title, titles⟩, last⟩ <;>
      exact ⟨selected, rfl⟩

end Lookup
end MediaNaming
