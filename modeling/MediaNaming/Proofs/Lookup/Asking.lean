import MediaNaming.Proofs.Lookup.Watching
import MediaNaming.Proofs.Text.Splitting

/-
Titles come whole or not at all. Once a series is selected, the service is asked for the episodes in
order until one fails. A failure leaves no title; otherwise the titles that are not blank stand in
the order of their episodes.
-/
namespace MediaNaming

variable {σ : Type}

theorem Text.trim_eq_nil_iff {t : Text} : t.trim = [] ↔ t.all isBlank = true := by
  rw [List.all_eq_true]
  constructor
  · intro trimmed c member
    by_contra solid
    exact Text.trimEnds_ne_nil member (by simpa using solid) trimmed
  · intro blank
    simp [Text.trim, Text.trimEnds, List.dropWhile_eq_nil_iff.2 blank]

structure Reply where
  episode : Nat
  answer : Except LookupError (Option Text)

namespace Reply

def failed (r : Reply) : Bool :=
  match r.answer with
  | .error _ => true
  | .ok _ => false

def title? (r : Reply) : Option Text :=
  match r.answer with
  | .ok (some title) => if title.all isBlank then none else some title
  | _ => none

theorem title?_answered (episode : Nat) (answer : Option Text) :
    (answer.filter fun t => t.trim != []) = title? ⟨episode, .ok answer⟩ := by
  cases answer with
  | none => rfl
  | some title =>
    by_cases blank : title.all isBlank = true
    · simp only [title?, if_pos blank]
      simp [Text.trim_eq_nil_iff.2 blank]
    · have kept : title.trim ≠ [] := fun trimmed => blank (Text.trim_eq_nil_iff.1 trimmed)
      simp only [title?, if_neg blank]
      simp [kept]

end Reply

def Service.ask (service : Service σ) (id season : Nat) : List Nat → σ → List Reply × σ
  | [], outside => ([], outside)
  | episode :: more, outside =>
    let (answer, outside) := service.episodeTitle id season episode outside
    let (replies, outside) := service.ask id season more outside
    (⟨episode, answer⟩ :: replies, outside)

def titlesIn (replies : List Reply) : Option (List Text) :=
  if ∃ r ∈ replies, r.failed = true then none else some (replies.filterMap Reply.title?)

theorem titlesIn_answered (episode : Nat) (answer : Option Text) (replies : List Reply) :
    titlesIn (⟨episode, .ok answer⟩ :: replies) =
      (titlesIn replies).map ((answer.filter fun t => t.trim != []).toList ++ ·) := by
  have unfailed : Reply.failed ⟨episode, .ok answer⟩ = false := rfl
  rw [Reply.title?_answered episode]
  by_cases failure : ∃ r ∈ replies, r.failed = true
  · simp [titlesIn, unfailed, failure]
  · cases title : Reply.title? ⟨episode, .ok answer⟩ <;>
      simp [titlesIn, unfailed, failure, title]

def joinTitles? (titles : List Text) : Option Text :=
  if titles = [] then none else some (Text.join " & ".toList titles)

/-- These are the first of the episodes, all unless one fails, and only the last one does. -/
structure AskedUntilFailure (episodes asked : List Nat) (replies : List Reply) : Prop where
  order : asked <+: episodes
  before : replies.Pairwise fun earlier _ => earlier.failed = false
  complete : (∀ r ∈ replies, r.failed = false) → asked = episodes

namespace Lookup

theorem askTitles_asked (lookup : Lookup σ) (id season : Nat) (episodes : List Nat) (outside : σ)
    (log : List Contact) : ∃ asked replies last,
      lookup.service.ask id season asked outside = (replies, last) ∧
      AskedUntilFailure episodes asked replies ∧
      lookup.watched.askTitles id season episodes (outside, log) =
        (titlesIn replies, last, log ++ asked.map (.asked id season)) := by
  -- world and log are any, since each episode that is asked for changes both for the next one
  induction episodes generalizing outside log with
  | nil =>
    refine ⟨[], [], outside, rfl, ⟨List.nil_prefix, .nil, fun _ => rfl⟩, ?_⟩
    simp [askTitles, titlesIn]
  | cons episode more ih =>
    rcases answered : lookup.service.episodeTitle id season episode outside with ⟨answer, next⟩
    have heard : lookup.watched.service.episodeTitle id season episode (outside, log) =
        (answer, next, log ++ [.asked id season episode]) := by
      simp [watched, answered]
    cases answer with
    | error e =>
      refine ⟨[episode], [⟨episode, .error e⟩], next, by simp [Service.ask, answered],
        ⟨by simp, by simp, by simp [Reply.failed]⟩, ?_⟩
      simp [askTitles, heard, titlesIn, Reply.failed]
    | ok title =>
      obtain ⟨asked, replies, last, asks, stops, told⟩ :=
        ih next (log ++ [.asked id season episode])
      refine ⟨episode :: asked, ⟨episode, .ok title⟩ :: replies, last,
        by simp [Service.ask, answered, asks], ⟨by simpa using stops.order, ?_, ?_⟩, ?_⟩
      · exact List.pairwise_cons.2 ⟨fun _ _ => rfl, stops.before⟩
      · intro whole
        rw [stops.complete fun r member => whole r (List.mem_cons_of_mem _ member)]
      · simp [askTitles, heard, told, titlesIn_answered]

theorem resolveTitle_selected (lookup : Lookup σ) {series : Text} {episodes : List Nat}
    {s next : LookupState σ} {id : Nat} (active : lookup.enabled = true)
    (some_episode : episodes ≠ []) (selected : lookup.selectSeries series s = (some id, next))
    (season : Nat) :
    lookup.resolveTitle series season episodes s =
      ((lookup.askTitles id season episodes next.outside).1.bind joinTitles?,
        { next with outside := (lookup.askTitles id season episodes next.outside).2 }) := by
  have ready : ¬ (¬ lookup.enabled = true ∨ episodes = []) := by simp [active, some_episode]
  simp only [resolveTitle, if_neg ready, selected]
  rcases lookup.askTitles id season episodes next.outside with ⟨_ | _ | ⟨title, titles⟩, last⟩ <;>
    rfl

theorem selectSeries_nonzero {lookup : Lookup σ} {series : Text} {s : LookupState σ} {chosen : Nat}
    (selected : (lookup.selectSeries series s).1 = some chosen) : chosen ≠ 0 := by
  have nonzero {found : Nat} (same : nonzero? found = some chosen) : chosen ≠ 0 := by
    simp only [nonzero?, Option.ite_none_left_eq_some, Option.some.injEq] at same
    exact same.2 ▸ same.1
  simp only [selectSeries] at selected
  split at selected
  · exact nonzero selected
  · split at selected
    · contradiction
    · exact nonzero selected

theorem selectSeries_contacts (lookup : Lookup σ) (series : Text) (s : LookupState σ) :
    ∀ contact ∈ (lookup.watched.selectSeries series s.watched).2.outside.2,
      ∀ chosen season episode, contact ≠ .asked chosen season episode := by
  have picks (candidates : List Candidate) (outside : Watched σ) :
      (lookup.watched.pick series candidates outside).2.2 = outside.2 ∨
        (lookup.watched.pick series candidates outside).2.2 =
          outside.2 ++ [.chose series candidates] := by
    match candidates with
    | [] => exact Or.inl rfl
    | [only] =>
      by_cases confirm : lookup.alwaysConfirm = true
      · exact Or.inr (by simp [pick, watched, confirm])
      · exact Or.inl (by simp [pick, watched, confirm])
    | first :: second :: more => exact Or.inr rfl
  intro contact member chosen season episode same
  subst same
  cases known : s.selections.get? series with
  | some stored => simp [selectSeries, LookupState.watched, known] at member
  | none =>
    rcases answered : lookup.service.search series s.outside with ⟨answer, next⟩
    have searched : lookup.watched.service.search series (s.outside, []) =
        (answer, next, [.searched series]) := by
      simp [watched, answered]
    cases answer with
    | error e => simp [selectSeries, LookupState.watched, propose, known, searched] at member
    | ok candidates =>
      rcases picks candidates (next, [.searched series]) with log | log <;>
        simp [selectSeries, LookupState.watched, propose, known, searched, log] at member

end Lookup

structure ResolvesWhole (lookup : Lookup σ) (series : Text) (chosen season : Nat)
    (episodes : List Nat) (s : LookupState σ) (asked : List Nat) (replies : List Reply) : Prop where
  /-- The service gives these replies in the world that the selection has left. -/
  replied :
    (lookup.service.ask chosen season asked (lookup.selectSeries series s).2.outside).1 = replies
  stops : AskedUntilFailure episodes asked replies
  /-- After the selection these episodes are asked for by id and season, and nothing else. -/
  contacts : (lookup.watched.resolveTitle series season episodes s.watched).2.outside.2 =
    (lookup.watched.selectSeries series s.watched).2.outside.2 ++ asked.map (.asked chosen season)
  selection : ∀ contact ∈ (lookup.watched.selectSeries series s.watched).2.outside.2,
    ∀ other season episode, contact ≠ .asked other season episode
  unnoticed : Prod.map id (LookupState.view Prod.fst)
      (lookup.watched.resolveTitle series season episodes s.watched) =
    lookup.resolveTitle series season episodes s
  failed : (∃ r ∈ replies, r.failed = true) →
    (lookup.resolveTitle series season episodes s).1 = none
  whole : (∀ r ∈ replies, r.failed = false) →
    (lookup.resolveTitle series season episodes s).1 =
      joinTitles? (replies.filterMap Reply.title?)

theorem resolves_whole (lookup : Lookup σ) (series : Text) (season : Nat) (episodes : List Nat)
    (s : LookupState σ) {chosen : Nat} (active : lookup.enabled = true)
    (some_episode : episodes ≠ []) (selected : (lookup.selectSeries series s).1 = some chosen) :
    chosen ≠ 0 ∧
      ∃ asked replies, ResolvesWhole lookup series chosen season episodes s asked replies := by
  have unnoticed := lookup.covers_watched.resolveTitle series season episodes s.watched
  have selects := lookup.covers_watched.selectSeries series s.watched
  rcases selection : lookup.watched.selectSeries series s.watched with ⟨found, next⟩
  rw [selection] at selects
  have here : lookup.selectSeries series s = (found, next.view Prod.fst) := selects.symm
  obtain rfl : found = some chosen := by
    rw [here] at selected
    exact selected
  obtain ⟨asked, replies, last, asks, stops, told⟩ :=
    lookup.askTitles_asked chosen season episodes next.outside.1 next.outside.2
  have told : lookup.watched.askTitles chosen season episodes next.outside = _ := told
  have resolves := lookup.watched.resolveTitle_selected active some_episode selection season
  rw [told] at resolves
  have answer : (lookup.resolveTitle series season episodes s).1 =
      (titlesIn replies).bind joinTitles? := by
    have watched := congrArg Prod.fst unnoticed
    rw [resolves] at watched
    exact watched.symm
  refine ⟨Lookup.selectSeries_nonzero selected, asked, replies, ?_⟩
  refine ⟨?_, stops, ?_, lookup.selectSeries_contacts series s, unnoticed, ?_, ?_⟩
  · rw [here]
    exact congrArg Prod.fst asks
  · rw [resolves, selection]
  · intro failure
    rw [answer, titlesIn, if_pos failure]
    rfl
  · intro whole
    rw [answer, titlesIn, if_neg (by simpa using whole)]
    rfl

def threeEpisodes : Lookup Unit where
  service := {
    search := fun _ _ => (.ok [⟨7, "Show".toList⟩], ())
    episodeTitle := fun _ _ episode _ =>
      (if episode = 1 then .ok (some "Pilot".toList)
        else if episode = 2 then .ok (some " ".toList)
        else if episode = 3 then .ok none
        else .error (.status 500), ()) }

theorem resolves_whole_until_failure :
    threeEpisodes.enabled = true ∧ [1, 2, 4, 3] ≠ [] ∧
      (threeEpisodes.selectSeries "Show".toList ⟨{}, ()⟩).1 = some 7 ∧
      7 ≠ 0 ∧ ∃ asked replies,
        ResolvesWhole threeEpisodes "Show".toList 7 1 [1, 2, 4, 3] ⟨{}, ()⟩ asked replies := by
  have selected : (threeEpisodes.selectSeries "Show".toList ⟨{}, ()⟩).1 = some 7 := by decide
  exact ⟨rfl, by decide, selected,
    resolves_whole threeEpisodes "Show".toList 1 [1, 2, 4, 3] ⟨{}, ()⟩ rfl (by decide) selected⟩

end MediaNaming
