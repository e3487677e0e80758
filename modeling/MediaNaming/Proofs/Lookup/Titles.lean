import MediaNaming.Lookup.Completer
import MediaNaming.Proofs.Lookup.Watching

/-
One call on one file. A call that looks for the title of a file reaches the lookup while that title
is open, and closes it; every other call leaves the file and the lookup alone. Either way the answer
is as with the title that the file has in the end.
-/
namespace MediaNaming

variable {σ τ : Type}

inductive FileCall
  | render
  | target
  | lookupTitle
  | field (letter : Char)
  | isValid

inductive FileAnswer
  | written (name : Except NamingError Text)
  | title (title : Text)
  | field (value : Option Text)
  | valid (valid : Bool)

namespace FileCall

def looksUp : FileCall → Bool
  | render | target | lookupTitle => true
  | field _ | isValid => false

def answer (c : Completer σ) (call : FileCall) (e : TitledEpisode) (s : LookupState σ) :
    FileAnswer × TitledEpisode × LookupState σ :=
  match call with
  | render =>
    let (name, e, s) := c.renderEpisode e s
    (.written name, e, s)
  | target =>
    let (path, e, s) := c.episodeTarget e s
    (.written path, e, s)
  | lookupTitle =>
    let (title, e, s) := c.lookup.lookupTitle e s
    (.title title, e, s)
  | field letter => (.field (e.fields letter), e, s)
  | isValid => (.valid e.isValid, e, s)

def told (renamer : Renamer) (e : Episode) (title : Text) : FileCall → FileAnswer
  | render => .written (renamer.renderEpisode ⟨e, some title⟩)
  | target => .written (renamer.episodeTarget ⟨e, some title⟩)
  | lookupTitle => .title title
  | field letter => .field (e.fieldsWithTitle title letter)
  | isValid => .valid (TitledEpisode.isValid ⟨e, some title⟩)

def answerBy (renamer : Renamer) (enabled : Bool) (resolve : Resolver τ) (call : FileCall)
    (e : TitledEpisode) (s : τ) : FileAnswer × TitledEpisode × τ :=
  match call with
  | render =>
    let (_, e, s) := e.lookupTitle enabled resolve s
    (.written (renamer.renderEpisode e), e, s)
  | target =>
    let (_, e, s) := e.lookupTitle enabled resolve s
    (.written (renamer.episodeTarget e), e, s)
  | lookupTitle =>
    let (title, e, s) := e.lookupTitle enabled resolve s
    (.title title, e, s)
  | field letter => (.field (e.fields letter), e, s)
  | isValid => (.valid e.isValid, e, s)

theorem answer_eq (c : Completer σ) (call : FileCall) :
    call.answer c = call.answerBy c.renamer c.lookup.enabled c.lookup.resolveTitle := by
  cases call <;> rfl

end FileCall

/-- A file that gives no title but names its series and an episode. -/
def Episode.LacksTitle (e : Episode) : Prop :=
  e.episodeTitle = [] ∧ e.seriesName ≠ unknownSeries ∧ e.episodes ≠ []

instance (e : Episode) : Decidable e.LacksTitle := inferInstanceAs (Decidable (_ ∧ _))

namespace TitledEpisode

def Open (enabled : Bool) (e : TitledEpisode) : Prop :=
  e.resolved = none ∧ e.episode.LacksTitle ∧ enabled = true

instance (enabled : Bool) (e : TitledEpisode) : Decidable (e.Open enabled) :=
  inferInstanceAs (Decidable (_ ∧ _))

theorem title_of_named {e : TitledEpisode} (named : e.episode.episodeTitle ≠ []) :
    e.title = e.episode.episodeTitle := if_neg named

theorem title_of_unnamed {e : TitledEpisode} (unnamed : e.episode.episodeTitle = []) :
    e.title = e.resolved.getD [] := if_pos unnamed

theorem lookupTitle_closed {enabled : Bool} {e : TitledEpisode} (closed : ¬ e.Open enabled)
    (resolve : Resolver τ) (s : τ) : e.lookupTitle enabled resolve s = (e.title, e, s) := by
  by_cases named : e.episode.episodeTitle ≠ []
  · rw [lookupTitle, if_pos named, title_of_named named]
  · have unnamed : e.episode.episodeTitle = [] := by simpa using named
    rw [lookupTitle, if_neg named, title_of_unnamed unnamed]
    cases known : e.resolved with
    | some title => rfl
    | none =>
      have shut : e.episode.seriesName = unknownSeries ∨ e.episode.episodes = [] ∨ ¬ enabled := by
        refine Decidable.byContradiction fun free => ?_
        simp only [not_or, Decidable.not_not] at free
        exact closed ⟨known, ⟨unnamed, free.1, free.2.1⟩, free.2.2⟩
      simp only [if_pos shut, Option.getD_none]

theorem lookupTitle_open {enabled : Bool} {e : TitledEpisode} (opens : e.Open enabled)
    (resolve : Resolver τ) (s : τ) :
    e.lookupTitle enabled resolve s =
      let (found, s) := resolve e.episode.seriesName e.episode.season e.episode.episodes s
      (found.getD [], { e with resolved := some (found.getD []) }, s) := by
  obtain ⟨unknown, ⟨unnamed, series, some⟩, active⟩ := opens
  simp [lookupTitle, unknown, unnamed, series, some, active]

/-- A title that the file has anyway changes nothing when it is resolved. -/
theorem resolved_title (renamer : Renamer) (e : TitledEpisode) :
    renamer.renderEpisode ⟨e.episode, some e.title⟩ = renamer.renderEpisode e ∧
      renamer.episodeTarget ⟨e.episode, some e.title⟩ = renamer.episodeTarget e ∧
      (⟨e.episode, some e.title⟩ : TitledEpisode).isValid = e.isValid := by
  have same : (⟨e.episode, some e.title⟩ : TitledEpisode).title = e.title := by
    simp only [title]
    split <;> rfl
  have fields : (⟨e.episode, some e.title⟩ : TitledEpisode).fields = e.fields := by
    simp only [TitledEpisode.fields, same]
  simp only [Renamer.episodeTarget, Renamer.renderEpisode, isValid, fields, and_self]

end TitledEpisode

namespace FileCall

variable {renamer : Renamer} {enabled : Bool} {call : FileCall} {e : TitledEpisode}

theorem answerBy_closed (quiet : ¬ (call.looksUp = true ∧ e.Open enabled)) (resolve : Resolver τ)
    (s : τ) : call.answerBy renamer enabled resolve e s =
      (call.told renamer e.episode e.title, e, s) := by
  obtain ⟨rendered, targeted, valid⟩ := e.resolved_title renamer
  have closed (looks : call.looksUp = true) :=
    TitledEpisode.lookupTitle_closed (fun opens => quiet ⟨looks, opens⟩) resolve s
  cases call with
  | render => simp only [answerBy, closed rfl, told, rendered]
  | target => simp only [answerBy, closed rfl, told, targeted]
  | lookupTitle => simp only [answerBy, closed rfl, told]
  | field letter => rfl
  | isValid => simp only [answerBy, told, valid]

theorem answerBy_open (looks : call.looksUp = true) (opens : e.Open enabled) (resolve : Resolver τ)
    (s : τ) : call.answerBy renamer enabled resolve e s =
      let (found, s) := resolve e.episode.seriesName e.episode.season e.episode.episodes s
      (call.told renamer e.episode (found.getD []), { e with resolved := some (found.getD []) },
        s) := by
  cases call with
  | render => simp only [answerBy, TitledEpisode.lookupTitle_open opens, told]
  | target => simp only [answerBy, TitledEpisode.lookupTitle_open opens, told]
  | lookupTitle => simp only [answerBy, TitledEpisode.lookupTitle_open opens, told]
  | field letter => contradiction
  | isValid => contradiction

end FileCall

structure Request where
  series : Text
  season : Nat
  episodes : List Nat

def Episode.request (e : Episode) : Request := ⟨e.seriesName, e.season, e.episodes⟩

def Resolver.noted (resolve : Resolver τ) : Resolver (τ × List Request) :=
  fun series season episodes s =>
    let (title, next) := resolve series season episodes s.1
    (title, next, s.2 ++ [⟨series, season, episodes⟩])

/-- An answer, what titles were requested for it, and what service and chooser were called for. -/
structure Notice where
  answer : FileAnswer
  requests : List Request
  contacts : List Contact

def FileCall.watch (c : Completer σ) (call : FileCall) (e : TitledEpisode) (s : LookupState σ) :
    Notice × TitledEpisode × LookupState σ :=
  let (answer, e, s, requests) := call.answerBy c.renamer c.lookup.enabled
    (Resolver.noted c.lookup.watched.resolveTitle) e (s.watched, [])
  (⟨answer, requests, s.outside.2⟩, e, s.view Prod.fst)

inductive Handled (renamer : Renamer) (enabled : Bool) (call : FileCall) (e : TitledEpisode) :
    Notice → TitledEpisode → Prop
  | quiet (quiet : ¬ (call.looksUp = true ∧ e.Open enabled)) :
      Handled renamer enabled call e ⟨call.told renamer e.episode e.title, [], []⟩ e
  | resolved (looks : call.looksUp = true) (opens : e.Open enabled) (title : Text)
      (contacts : List Contact) :
      Handled renamer enabled call e
        ⟨call.told renamer e.episode title, [e.episode.request], contacts⟩
        { e with resolved := some title }

namespace FileCall

theorem watch_handled (c : Completer σ) (call : FileCall) (e : TitledEpisode) (s : LookupState σ) :
    Handled c.renamer c.lookup.enabled call e (call.watch c e s).1 (call.watch c e s).2.1 := by
  by_cases resolves : call.looksUp = true ∧ e.Open c.lookup.enabled
  · simp only [watch, answerBy_open resolves.1 resolves.2]
    exact .resolved resolves.1 resolves.2 _ _
  · simp only [watch, answerBy_closed resolves]
    exact .quiet resolves

theorem watch_unnoticed (c : Completer σ) (call : FileCall) (e : TitledEpisode)
    (s : LookupState σ) : call.answer c e s =
      ((call.watch c e s).1.answer, (call.watch c e s).2) := by
  by_cases resolves : call.looksUp = true ∧ e.Open c.lookup.enabled
  · have same := c.lookup.covers_watched.resolveTitle e.episode.seriesName e.episode.season
      e.episode.episodes s.watched
    rw [show s.watched.view Prod.fst = s from rfl] at same
    simp only [answer_eq, watch, answerBy_open resolves.1 resolves.2, ← same]
    rfl
  · simp only [answer_eq, watch, answerBy_closed resolves]
    rfl

end FileCall

namespace Handled

variable {renamer : Renamer} {enabled : Bool} {call : FileCall} {e after : TitledEpisode}
  {notice : Notice}

theorem episode (handled : Handled renamer enabled call e notice after) :
    after.episode = e.episode := by
  cases handled <;> rfl

theorem keeps (handled : Handled renamer enabled call e notice after)
    (closed : ¬ e.Open enabled) : after = e := by
  cases handled with
  | quiet _ => rfl
  | resolved _ opens _ _ => contradiction

theorem closes (handled : Handled renamer enabled call e notice after)
    (looks : call.looksUp = true) : ¬ after.Open enabled := by
  cases handled with
  | quiet quiet => exact fun opens => quiet ⟨looks, opens⟩
  | resolved _ _ title _ => exact fun opens => Option.some_ne_none title opens.1

theorem answer (handled : Handled renamer enabled call e notice after) :
    notice.answer = call.told renamer e.episode after.title := by
  cases handled with
  | quiet _ => rfl
  | resolved _ opens title _ =>
    have resolved := TitledEpisode.title_of_unnamed
      (show ({ e with resolved := some title } : TitledEpisode).episode.episodeTitle = [] from
        opens.2.1.1)
    rw [resolved, Option.getD_some]

theorem gated (handled : Handled renamer enabled call e notice after)
    (noticed : notice.requests ≠ [] ∨ notice.contacts ≠ []) :
    call.looksUp = true ∧ e.Open enabled := by
  cases handled with
  | quiet _ => simp at noticed
  | resolved looks opens _ _ => exact ⟨looks, opens⟩

end Handled
end MediaNaming
