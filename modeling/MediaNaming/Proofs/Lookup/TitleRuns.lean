import MediaNaming.Proofs.Lookup.Titles
import Mathlib.Logic.Function.Basic

/-
Titles over a whole run. Calls come in any order and on any files, through one completer. A file
keeps its title closed once a call has looked for it; so at most one request is made for each file,
and from then on all answers about it are as with one title.
-/
namespace MediaNaming

variable {ι σ τ α : Type} [DecidableEq ι]

structure Handling (ι α : Type) where
  file : ι
  call : FileCall
  outcome : α

def runCalls (act : FileCall → TitledEpisode → τ → α × TitledEpisode × τ) :
    List (ι × FileCall) → (ι → TitledEpisode) → τ → List (Handling ι α) × (ι → TitledEpisode) × τ
  | [], files, s => ([], files, s)
  | (i, call) :: more, files, s =>
    let (outcome, e, s) := act call (files i) s
    let (later, files, s) := runCalls act more (Function.update files i e) s
    (⟨i, call, outcome⟩ :: later, files, s)

def unresolved (episodes : ι → Episode) (i : ι) : TitledEpisode := ⟨episodes i, none⟩

def lookedUp (i : ι) (calls : List (ι × FileCall)) : Bool :=
  calls.any fun (j, call) => j = i && call.looksUp

def requestsFor (i : ι) (handlings : List (Handling ι Notice)) : List Request :=
  (handlings.filter fun h => h.file = i).flatMap fun h => h.outcome.requests

theorem requestsFor_cons (i : ι) (h : Handling ι Notice) (later : List (Handling ι Notice)) :
    requestsFor i (h :: later) =
      (if h.file = i then h.outcome.requests else []) ++ requestsFor i later := by
  by_cases same : h.file = i <;> simp [requestsFor, same]

section
variable (c : Completer σ)

def Completer.answers (calls : List (ι × FileCall)) (files : ι → TitledEpisode)
    (s : LookupState σ) : List (Handling ι FileAnswer) × (ι → TitledEpisode) × LookupState σ :=
  runCalls (FileCall.answer c) calls files s

/-- The run that `answers` makes, with all that is noticed of it. -/
def Completer.notices (calls : List (ι × FileCall)) (files : ι → TitledEpisode)
    (s : LookupState σ) : List (Handling ι Notice) × (ι → TitledEpisode) × LookupState σ :=
  runCalls (FileCall.watch c) calls files s

theorem answers_unnoticed (calls : List (ι × FileCall)) (files : ι → TitledEpisode)
    (s : LookupState σ) : c.answers calls files s =
      ((c.notices calls files s).1.map fun h => ⟨h.file, h.call, h.outcome.answer⟩,
        (c.notices calls files s).2) := by
  induction calls generalizing files s with
  | nil => rfl
  | cons first more ih =>
    obtain ⟨i, call⟩ := first
    simp only [Completer.answers, Completer.notices] at ih ⊢
    simp only [runCalls, FileCall.watch_unnoticed, ih, List.map_cons]

end

inductive Handles (renamer : Renamer) (enabled : Bool) :
    List (ι × FileCall) → (ι → TitledEpisode) → List (Handling ι Notice) → Prop
  | done (files : ι → TitledEpisode) : Handles renamer enabled [] files []
  | call {i : ι} {call : FileCall} {more : List (ι × FileCall)} {files : ι → TitledEpisode}
      {notice : Notice} {after : TitledEpisode} {later : List (Handling ι Notice)}
      (handled : Handled renamer enabled call (files i) notice after)
      (rest : Handles renamer enabled more (Function.update files i after) later) :
      Handles renamer enabled ((i, call) :: more) files (⟨i, call, notice⟩ :: later)

theorem notices_handles (c : Completer σ) (calls : List (ι × FileCall)) (files : ι → TitledEpisode)
    (s : LookupState σ) :
    Handles c.renamer c.lookup.enabled calls files (c.notices calls files s).1 := by
  induction calls generalizing files s with
  | nil => exact .done files
  | cons first more ih =>
    obtain ⟨i, call⟩ := first
    exact .call (call.watch_handled c (files i) s) (ih _ _)

section
variable {renamer : Renamer} {enabled : Bool} {call : FileCall} {i : ι} {after : TitledEpisode}
  {files : ι → TitledEpisode} {notice : Notice}

theorem Handled.update_episode (handled : Handled renamer enabled call (files i) notice after)
    (j : ι) : (Function.update files i after j).episode = (files j).episode := by
  by_cases same : j = i
  · rw [same, Function.update_self, handled.episode]
  · rw [Function.update_of_ne same]

theorem Handled.update_closed (handled : Handled renamer enabled call (files i) notice after)
    {j : ι} (closed : ¬ (files j).Open enabled) : Function.update files i after j = files j := by
  by_cases same : j = i
  · subst same
    rw [Function.update_self, handled.keeps closed]
  · rw [Function.update_of_ne same]

end

namespace Handles

variable {renamer : Renamer} {enabled : Bool} {calls : List (ι × FileCall)}
  {files : ι → TitledEpisode} {handlings : List (Handling ι Notice)}

theorem gated (handles : Handles renamer enabled calls files handlings) : ∀ h ∈ handlings,
    h.outcome.requests ≠ [] ∨ h.outcome.contacts ≠ [] →
      h.call.looksUp = true ∧ (files h.file).episode.LacksTitle ∧ enabled = true := by
  induction handles with
  | done files => simp
  | call handled rest ih =>
    intro h member noticed
    rcases List.mem_cons.1 member with rfl | later
    · obtain ⟨looks, -, lacks, active⟩ := handled.gated noticed
      exact ⟨looks, lacks, active⟩
    · rw [← handled.update_episode]
      exact ih h later noticed

/-- One request is made for a file whose title is open and looked for, and none for any other. -/
theorem requests (handles : Handles renamer enabled calls files handlings) (i : ι) :
    requestsFor i handlings =
      if (files i).Open enabled ∧ lookedUp i calls = true then [(files i).episode.request]
      else [] := by
  induction handles with
  | done files => simp [requestsFor, lookedUp]
  | @call j call more files notice after later handled rest ih =>
    have looked : lookedUp i ((j, call) :: more) = true ↔
        (j = i ∧ call.looksUp = true) ∨ lookedUp i more = true := by simp [lookedUp]
    rw [requestsFor_cons, ih]
    by_cases same : j = i
    · subst same
      rw [Function.update_self]
      cases handled with
      | quiet quiet =>
        by_cases opens : (files j).Open enabled
        · have unlooked : ¬ call.looksUp = true := fun looks => quiet ⟨looks, opens⟩
          simp [looked, unlooked]
        · simp [opens]
      | resolved looks opens title contacts =>
        have closed : ¬ ({ files j with resolved := some title } : TitledEpisode).Open enabled :=
          fun still => Option.some_ne_none title still.1
        simp [looked, looks, opens, closed]
    · simp [looked, same, Function.update_of_ne (Ne.symm same)]

theorem settled (handles : Handles renamer enabled calls files handlings) : ∃ title : ι → Text,
    (∀ i, ¬ (files i).Open enabled → title i = (files i).title) ∧
    (∀ h ∈ handlings, h.call.looksUp = true ∨ ¬ (files h.file).Open enabled →
      h.outcome.answer = h.call.told renamer (files h.file).episode (title h.file)) ∧
    handlings.Pairwise fun earlier later => earlier.file = later.file →
      earlier.call.looksUp = true →
        later.outcome.answer = later.call.told renamer (files later.file).episode
          (title later.file) := by
  induction handles with
  | done files => exact ⟨fun i => (files i).title, by simp⟩
  | @call i call more files notice after later handled rest ih =>
    obtain ⟨title, known, answers, together⟩ := ih
    simp only [handled.update_episode] at answers together
    refine ⟨title, fun j closed => ?_, fun h member ready => ?_, ?_⟩
    · have same := handled.update_closed closed
      rw [known j (by rwa [same]), same]
    · rcases List.mem_cons.1 member with rfl | among
      · have closed : ¬ after.Open enabled := by
          rcases ready with looks | closed
          · exact handled.closes looks
          · rwa [handled.keeps closed]
        have reached := known i (by rwa [Function.update_self])
        rw [Function.update_self] at reached
        rw [reached]
        exact handled.answer
      · refine answers h among (ready.imp_right fun closed => ?_)
        rwa [handled.update_closed closed]
    · refine List.pairwise_cons.2 ⟨fun h among same looks => answers h among (Or.inr ?_), together⟩
      obtain rfl : i = h.file := same
      rw [Function.update_self]
      exact handled.closes looks

end Handles

structure TitlesOnce (c : Completer σ) (episodes : ι → Episode) (calls : List (ι × FileCall))
    (s : LookupState σ) : Prop where
  unnoticed : c.answers calls (unresolved episodes) s =
    ((c.notices calls (unresolved episodes) s).1.map fun h => ⟨h.file, h.call, h.outcome.answer⟩,
      (c.notices calls (unresolved episodes) s).2)
  /-- Service and chooser are called, and titles requested, only by calls that look for the title of
      a file without one, under a configuration with lookups. -/
  gated : ∀ h ∈ (c.notices calls (unresolved episodes) s).1,
    h.outcome.requests ≠ [] ∨ h.outcome.contacts ≠ [] →
      h.call.looksUp = true ∧ (episodes h.file).LacksTitle ∧ c.renamer.config.lookupEnabled = true
  /-- The title of a file without one is requested once, if any call looks for it. -/
  once : ∀ i, requestsFor i (c.notices calls (unresolved episodes) s).1 =
    if ((episodes i).LacksTitle ∧ c.renamer.config.lookupEnabled = true) ∧ lookedUp i calls = true
    then [(episodes i).request] else []
  settled : ∃ title : ι → Text,
    (∀ h ∈ (c.notices calls (unresolved episodes) s).1, h.call.looksUp = true →
      h.outcome.answer = h.call.told c.renamer (episodes h.file) (title h.file)) ∧
    (c.notices calls (unresolved episodes) s).1.Pairwise fun earlier later =>
      earlier.file = later.file → earlier.call.looksUp = true →
        later.outcome.answer = later.call.told c.renamer (episodes later.file) (title later.file)

theorem titlesOnce (renamer : Renamer) (lookup : Lookup σ) (episodes : ι → Episode)
    (calls : List (ι × FileCall)) (s : LookupState σ) :
    TitlesOnce (Completer.attach renamer lookup) episodes calls s := by
  have handles := notices_handles (Completer.attach renamer lookup) calls (unresolved episodes) s
  obtain ⟨title, -, answers, together⟩ := handles.settled
  refine ⟨answers_unnoticed _ calls _ s, handles.gated, fun i => ?_,
    ⟨title, fun h member looks => answers h member (Or.inl looks), together⟩⟩
  have opens : (unresolved episodes i).Open (Completer.attach renamer lookup).lookup.enabled ↔
      (episodes i).LacksTitle ∧ renamer.config.lookupEnabled = true := by
    simp [TitledEpisode.Open, unresolved, Completer.attach]
  exact (handles.requests i).trans (if_congr (and_congr_left' opens) rfl rfl)

end MediaNaming
