import MediaNaming.Lookup.Resolution

/-
Lookups over a wider world. A lookup meets the outside in its service and its chooser only; where
these answer the same, an outside that holds more makes no difference. So every call of them can be
written down unnoticed.
-/
namespace MediaNaming

variable {σ τ : Type}

def LookupState.view (view : τ → σ) (s : LookupState τ) : LookupState σ :=
  ⟨s.selections, view s.outside⟩

/-- The wide lookup has the same switches, and its service and chooser answer the same, as far as
    the view goes. -/
structure Lookup.Covers (view : τ → σ) (wide : Lookup τ) (lookup : Lookup σ) : Prop where
  search : ∀ series outside, Prod.map id view (wide.service.search series outside) =
    lookup.service.search series (view outside)
  episodeTitle : ∀ chosen season episode outside,
    Prod.map id view (wide.service.episodeTitle chosen season episode outside) =
      lookup.service.episodeTitle chosen season episode (view outside)
  chooser : ∀ series candidates outside, Prod.map id view (wide.chooser series candidates outside) =
    lookup.chooser series candidates (view outside)
  enabled : wide.enabled = lookup.enabled
  alwaysConfirm : wide.alwaysConfirm = lookup.alwaysConfirm

namespace Lookup.Covers

variable {view : τ → σ} {wide : Lookup τ} {lookup : Lookup σ} (covers : wide.Covers view lookup)

include covers

theorem pick (series : Text) (candidates : List Candidate) (outside : τ) :
    Prod.map id view (wide.pick series candidates outside) =
      lookup.pick series candidates (view outside) := by
  match candidates with
  | [] => rfl
  | [only] =>
    simp only [Lookup.pick, covers.alwaysConfirm]
    split
    · exact covers.chooser ..
    · rfl
  | first :: second :: more => exact covers.chooser ..

theorem propose (series : Text) (outside : τ) :
    Prod.map id view (wide.propose series outside) = lookup.propose series (view outside) := by
  simp only [Lookup.propose, ← covers.search]
  rcases wide.service.search series outside with ⟨_ | candidates, next⟩
  · rfl
  · simp only [Prod.map, id, ← covers.pick]

theorem selectSeries (series : Text) (s : LookupState τ) :
    Prod.map id (LookupState.view view) (wide.selectSeries series s) =
      lookup.selectSeries series (s.view view) := by
  simp only [Lookup.selectSeries, LookupState.view, ← covers.propose]
  cases s.selections.get? series with
  | some chosen => rfl
  | none => rcases wide.propose series s.outside with ⟨_ | proposed, next⟩ <;> rfl

theorem askTitles (chosen season : Nat) (episodes : List Nat) (outside : τ) :
    Prod.map id view (wide.askTitles chosen season episodes outside) =
      lookup.askTitles chosen season episodes (view outside) := by
  induction episodes generalizing outside with
  | nil => rfl
  | cons episode more ih =>
    simp only [Lookup.askTitles, ← covers.episodeTitle]
    rcases wide.service.episodeTitle chosen season episode outside with ⟨_ | title, next⟩
    · rfl
    · simp only [Prod.map, id, ← ih]

theorem resolveTitle (series : Text) (season : Nat) (episodes : List Nat) (s : LookupState τ) :
    Prod.map id (LookupState.view view) (wide.resolveTitle series season episodes s) =
      lookup.resolveTitle series season episodes (s.view view) := by
  simp only [Lookup.resolveTitle, covers.enabled, ← covers.selectSeries]
  split
  · rfl
  · rcases wide.selectSeries series s with ⟨_ | chosen, next⟩
    · rfl
    · simp only [Prod.map, id, LookupState.view, ← covers.askTitles]
      rcases wide.askTitles chosen season episodes next.outside with ⟨_ | _ | _, last⟩ <;> rfl

end Lookup.Covers

inductive Contact
  | searched (series : Text)
  | asked (id season episode : Nat)
  | chose (series : Text) (candidates : List Candidate)

abbrev Watched (σ : Type) := σ × List Contact

def Lookup.watched (lookup : Lookup σ) : Lookup (Watched σ) where
  service := {
    search := fun series outside =>
      let (answer, next) := lookup.service.search series outside.1
      (answer, next, outside.2 ++ [.searched series])
    episodeTitle := fun id season episode outside =>
      let (answer, next) := lookup.service.episodeTitle id season episode outside.1
      (answer, next, outside.2 ++ [.asked id season episode]) }
  chooser := fun series candidates outside =>
    let (id, next) := lookup.chooser series candidates outside.1
    (id, next, outside.2 ++ [.chose series candidates])
  enabled := lookup.enabled
  alwaysConfirm := lookup.alwaysConfirm

def LookupState.watched (s : LookupState σ) : LookupState (Watched σ) :=
  ⟨s.selections, s.outside, []⟩

theorem Lookup.covers_watched (lookup : Lookup σ) : lookup.watched.Covers Prod.fst lookup where
  search _ _ := rfl
  episodeTitle _ _ _ _ := rfl
  chooser _ _ _ := rfl
  enabled := rfl
  alwaysConfirm := rfl

end MediaNaming
