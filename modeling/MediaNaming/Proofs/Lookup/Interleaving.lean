import Mathlib.Logic.Function.Basic
import MediaNaming.Proofs.Lookup.Selection

/-
Selections made at the same time. Reading the selections, searching with choosing, and inserting
are each whole, but between them others may take their turns; so several can find nothing stored
and choose different ids. What is inserted first decides for all of them.
-/
namespace MediaNaming

variable {σ ι : Type}

theorem Selections.get?_insertIfAbsent_or (s : Selections) (series name : Text) (id : Nat) :
    (s.insertIfAbsent series id).2.get? name =
      (s.get? name).or (if SameName series name then some id else none) := by
  by_cases same : SameName series name
  · cases known : s.get? series with
    | some kept => simp [insertIfAbsent_known known, ← get?_same same, known]
    | none => simp [← get?_same same, insertIfAbsent_unknown known, known, if_pos same]
  · simp [insertIfAbsent_other same, if_neg same]

/-- How far the selection of a series has come. -/
inductive Selecting
  | begun
  | missed
  | proposed (id : Nat)
  | selected (id : Nat)
  | failed
deriving DecidableEq, Repr

namespace Selecting

def answer? : Selecting → Option (Option Nat)
  | selected id => some (Lookup.nonzero? id)
  | failed => some none
  | _ => none

def inserts? : Selecting → Option Nat
  | proposed id => some id
  | _ => none

def left : Selecting → Nat
  | begun => 3
  | missed => 2
  | proposed _ => 1
  | _ => 0

def turn (lookup : Lookup σ) (series : Text) (s : LookupState σ) :
    Selecting → Selecting × LookupState σ
  | begun =>
    match s.selections.get? series with
    | some id => (selected id, s)
    | none => (missed, s)
  | missed =>
    match lookup.propose series s.outside with
    | (none, outside) => (failed, { s with outside := outside })
    | (some id, outside) => (proposed id, { s with outside := outside })
  | proposed id =>
    let (kept, selections) := s.selections.insertIfAbsent series id
    (selected kept, { s with selections := selections })
  | ended => (ended, s)

inductive Turns (series : Text) (s : Selections) : Selecting → Selecting → Selections → Prop
  | stored {id : Nat} (known : s.get? series = some id) : Turns series s begun (selected id) s
  | missed (unknown : s.get? series = none) : Turns series s begun missed s
  | failed : Turns series s missed failed s
  | proposed (id : Nat) : Turns series s missed (proposed id) s
  | inserted (id : Nat) : Turns series s (proposed id) (selected (s.insertIfAbsent series id).1)
      (s.insertIfAbsent series id).2
  | ended {c : Selecting} (ended : c.left = 0) : Turns series s c c s

theorem turns_turn (lookup : Lookup σ) (series : Text) (s : LookupState σ) (c : Selecting) :
    Turns series s.selections c (c.turn lookup series s).1 (c.turn lookup series s).2.selections := by
  cases c with
  | begun =>
    simp only [turn]
    cases known : s.selections.get? series with
    | some id => exact .stored known
    | none => exact .missed known
  | missed =>
    simp only [turn]
    rcases lookup.propose series s.outside with ⟨_ | id, outside⟩
    · exact .failed
    · exact .proposed id
  | proposed id => exact .inserted id
  | selected id => exact .ended rfl
  | failed => exact .ended rfl

/-- What the selection uses is what is stored for the name. -/
def Agrees (selections : Selections) (series : Text) (c : Selecting) : Prop :=
  ∀ id, c = selected id → selections.get? series = some id

section
variable {series : Text} {s next : Selections} {c after : Selecting}

theorem inserts?_of_left (ended : c.left = 0) : c.inserts? = none := by
  cases c <;> simp_all [left, inserts?]

theorem answer?_of_left (ended : c.left = 0) : c.answer?.isSome = true := by
  cases c <;> simp_all [left, answer?]

theorem Turns.selections (turns : Turns series s c after next) (name : Text) :
    next.get? name = (s.get? name).or
      (c.inserts?.bind fun id => if SameName series name then some id else none) := by
  cases turns with
  | inserted id => exact s.get?_insertIfAbsent_or series name id
  | ended ended => simp [inserts?_of_left ended]
  | _ => simp [inserts?]

theorem Turns.agrees (turns : Turns series s c after next) (before : c.Agrees s series) :
    after.Agrees next series := by
  intro id now
  cases turns with
  | stored known => exact Selecting.selected.inj now ▸ known
  | inserted new => exact Selecting.selected.inj now ▸ s.get?_insertIfAbsent series new
  | ended _ => exact before id now
  | _ => contradiction

theorem Turns.left (turns : Turns series s c after next) : after.left ≤ c.left - 1 := by
  cases turns with
  | ended ended => omega
  | _ => simp [Selecting.left]

theorem Turns.selected {id : Nat} (turns : Turns series s (selected id) after next) :
    after = .selected id := by
  cases turns
  rfl

end
end Selecting

/-- Selections under way on one lookup, and all that was put to the selections so far, in order. -/
structure Race (ι σ : Type) where
  calls : ι → Selecting
  state : LookupState σ
  inserted : List (Text × Nat) := []

def firstInserted (name : Text) (inserted : List (Text × Nat)) : Option Nat :=
  (inserted.find? fun entry => SameName entry.1 name).map Prod.snd

theorem firstInserted_append (name : Text) (inserted new : List (Text × Nat)) :
    firstInserted name (inserted ++ new) =
      (firstInserted name inserted).or (firstInserted name new) := by
  simp only [firstInserted, List.find?_append, Option.map_or]

theorem firstInserted_toList (name series : Text) (id? : Option Nat) :
    firstInserted name (id?.map (series, ·)).toList =
      id?.bind fun id => if SameName series name then some id else none := by
  cases id? with
  | none => rfl
  | some id => by_cases same : SameName series name <;> simp [firstInserted, same]

namespace Race

def start (s : LookupState σ) : Race ι σ := ⟨fun _ => .begun, s, []⟩

/-- What is stored, and what the calls use, by what was stored before and what was put since. -/
structure Sound (series : ι → Text) (before : Selections) (r : Race ι σ) : Prop where
  stored : ∀ name,
    r.state.selections.get? name = (before.get? name).or (firstInserted name r.inserted)
  agrees : ∀ i, (r.calls i).Agrees r.state.selections (series i)

theorem sound_start (series : ι → Text) (s : LookupState σ) :
    Sound series s.selections (start s) := by
  constructor
  · intro name
    simp [start, firstInserted]
  · intro i id selected
    contradiction

variable [DecidableEq ι] (lookup : Lookup σ) (series : ι → Text)

def step (r : Race ι σ) (i : ι) : Race ι σ :=
  let (call, state) := (r.calls i).turn lookup (series i) r.state
  ⟨Function.update r.calls i call, state,
    r.inserted ++ ((r.calls i).inserts?.map (series i, ·)).toList⟩

def run (turns : List ι) (r : Race ι σ) : Race ι σ := turns.foldl (step lookup series) r

theorem run_append (turns more : List ι) (r : Race ι σ) :
    run lookup series (turns ++ more) r = run lookup series more (run lookup series turns r) :=
  List.foldl_append

@[simp] theorem step_calls_self (r : Race ι σ) (i : ι) : (r.step lookup series i).calls i =
    ((r.calls i).turn lookup (series i) r.state).1 := by
  simp [step]

@[simp] theorem step_calls_other (r : Race ι σ) {i j : ι} (other : j ≠ i) :
    (r.step lookup series i).calls j = r.calls j := by
  simp [step, other]

variable {series} {before : Selections} {r : Race ι σ}

theorem Sound.step (sound : Sound series before r) (i : ι) :
    Sound series before (r.step lookup series i) := by
  have turns := (r.calls i).turns_turn lookup (series i) r.state
  constructor
  · intro name
    simp only [Race.step, turns.selections, sound.stored, firstInserted_append, firstInserted_toList,
      Option.or_assoc]
  · intro j
    by_cases this : j = i
    · subst this
      rw [step_calls_self]
      exact turns.agrees (sound.agrees j)
    · intro id selected
      -- the turn of another call only adds to what is stored
      rw [step_calls_other lookup series r this] at selected
      simp [Race.step, turns.selections, sound.agrees j id selected]

theorem Sound.run (sound : Sound series before r) (turns : List ι) :
    Sound series before (run lookup series turns r) := by
  induction turns generalizing r with
  | nil => exact sound
  | cons i more ih => exact ih (sound.step lookup i)

theorem run_selected {i : ι} {id : Nat} (selected : r.calls i = .selected id) (turns : List ι) :
    (run lookup series turns r).calls i = .selected id := by
  induction turns generalizing r with
  | nil => exact selected
  | cons j more ih =>
    refine ih (r := r.step lookup series j) ?_
    by_cases this : i = j
    · subst this
      rw [step_calls_self, selected]
      exact (Selecting.turns_turn lookup (series i) r.state _).selected
    · rw [step_calls_other lookup series r this, selected]

theorem run_left (turns : List ι) (r : Race ι σ) (i : ι) :
    ((run lookup series turns r).calls i).left ≤ (r.calls i).left - turns.count i := by
  induction turns generalizing r with
  | nil => exact Nat.le_refl _
  | cons j more ih =>
    have later := ih (r.step lookup series j)
    by_cases this : i = j
    · subst this
      have now := ((r.calls i).turns_turn lookup (series i) r.state).left
      rw [step_calls_self] at later
      rw [List.count_cons_self]
      exact Nat.le_trans later (by omega)
    · rwa [step_calls_other lookup series r this, ← List.count_cons_of_ne (Ne.symm this)] at later

theorem run_uninterrupted {i : ι} (begun : r.calls i = .begun) :
    ((run lookup series [i, i, i] r).calls i).answer? =
        some (lookup.selectSeries (series i) r.state).1 ∧
      (run lookup series [i, i, i] r).state = (lookup.selectSeries (series i) r.state).2 := by
  cases known : r.state.selections.get? (series i) with
  | some id => simp [run, step, begun, Selecting.turn, Selecting.answer?, Lookup.selectSeries, known]
  | none =>
    rcases proposes : lookup.propose (series i) r.state.outside with ⟨_ | id, outside⟩ <;>
      simp [run, step, begun, Selecting.turn, Selecting.answer?, Lookup.selectSeries, known, proposes]

end Race

section
variable [DecidableEq ι] (lookup : Lookup σ) (series : ι → Text) (s : LookupState σ)

def Race.after (turns : List ι) : Race ι σ := Race.run lookup series turns (Race.start s)

structure SelectsFirst (turns : List ι) : Prop where
  whole : ∀ i, ((Race.after lookup series s [i, i, i]).calls i).answer? =
      some (lookup.selectSeries (series i) s).1 ∧
    (Race.after lookup series s [i, i, i]).state = (lookup.selectSeries (series i) s).2
  ended : ∀ i, 3 ≤ turns.count i →
    ((Race.after lookup series s turns).calls i).answer?.isSome = true
  stored : ∀ name, (Race.after lookup series s turns).state.selections.get? name =
    (s.selections.get? name).or (firstInserted name (Race.after lookup series s turns).inserted)
  agreed : ∀ {i name id}, SameName (series i) name →
    (Race.after lookup series s turns).calls i = .selected id →
      (s.selections.get? name).or (firstInserted name (Race.after lookup series s turns).inserted) =
        some id
  kept : ∀ {i name id} more, SameName (series i) name →
    (Race.after lookup series s turns).calls i = .selected id →
      (Race.after lookup series s (turns ++ more)).state.selections.get? name = some id ∧
        ∀ {j other}, SameName (series j) name →
          (Race.after lookup series s (turns ++ more)).calls j = .selected other → other = id

theorem selectsFirst (turns : List ι) : SelectsFirst lookup series s turns where
  whole i := Race.run_uninterrupted lookup rfl
  ended i turned := by
    refine Selecting.answer?_of_left ?_
    have left : ((Race.after lookup series s turns).calls i).left ≤ 3 - turns.count i :=
      Race.run_left lookup turns (Race.start s) i
    omega
  stored := ((Race.sound_start series s).run lookup turns).stored
  agreed := by
    intro i name id same selected
    have sound := (Race.sound_start series s).run lookup turns
    exact (sound.stored name).symm.trans
      ((Selections.get?_same same _).symm.trans (sound.agrees i id selected))
  kept := by
    intro i name id more same selected
    have sound := (Race.sound_start series s).run lookup (turns ++ more)
    have still : (Race.after lookup series s (turns ++ more)).calls i = .selected id := by
      rw [Race.after, Race.run_append]
      exact Race.run_selected lookup selected more
    have stored : (Race.after lookup series s (turns ++ more)).state.selections.get? name = some id :=
      (Selections.get?_same same _).symm.trans (sound.agrees i id still)
    refine ⟨stored, fun {j other} also uses => ?_⟩
    have used := (Selections.get?_same also _).symm.trans (sound.agrees j other uses)
    exact Option.some.inj (used.symm.trans stored)

-- each search finds another series; both calls miss, and the one that proposed later inserts first
example :
    let service : Service Nat :=
      ⟨fun _ asked => (.ok [⟨asked + 1, []⟩], asked + 1), fun _ _ _ asked => (.ok none, asked)⟩
    let race := Race.after ⟨service, Chooser.first, true, false⟩
      (fun second => if second then "SHOW ".toList else "Show".toList) ⟨{}, 0⟩
      [false, true, false, true, true, false]
    race.calls false = .selected 2 ∧ race.calls true = .selected 2 := by
  decide +kernel

end

end MediaNaming
