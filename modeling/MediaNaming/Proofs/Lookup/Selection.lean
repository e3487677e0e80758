import MediaNaming.Proofs.Lookup.Listening

/-
Selection of series over a whole run. A name is searched only while nothing is stored for it, and
what a search leads to is stored at once; so after the first choice, or the first id inserted by
hand, the outside hears no more of that name.
-/
namespace MediaNaming

variable {σ : Type}

def SameName (series other : Text) : Prop := normalName series = normalName other

instance (series other : Text) : Decidable (SameName series other) :=
  inferInstanceAs (Decidable (_ = _))

namespace Selections

theorem get?_same {series other : Text} (same : SameName series other) (s : Selections) :
    s.get? series = s.get? other := by
  rw [get?, get?, same]

theorem insertIfAbsent_known {s : Selections} {series : Text} {kept : Nat}
    (known : s.get? series = some kept) (id : Nat) : s.insertIfAbsent series id = (kept, s) := by
  simp only [insertIfAbsent, known]

theorem insertIfAbsent_unknown {s : Selections} {series : Text} (unknown : s.get? series = none)
    (id : Nat) : (s.insertIfAbsent series id).2.get? series = some id := by
  rw [get?_insertIfAbsent, insertIfAbsent, unknown]

theorem insertIfAbsent_other {series other : Text} (different : ¬ SameName series other)
    (s : Selections) (id : Nat) : (s.insertIfAbsent series id).2.get? other = s.get? other := by
  simp only [insertIfAbsent]
  cases known : s.get? series with
  | some kept => rfl
  | none =>
    have apart : (normalName other == normalName series) = false := by
      simpa using fun same : normalName other = normalName series => different same.symm
    simp only [get?, List.lookup_cons, apart]

theorem insertIfAbsent_keeps {s : Selections} {other : Text} {id : Nat}
    (known : s.get? other = some id) (series : Text) (new : Nat) :
    (s.insertIfAbsent series new).2.get? other = some id := by
  by_cases same : SameName series other
  · rw [insertIfAbsent_known ((get?_same same s).trans known)]
    exact known
  · rw [insertIfAbsent_other same, known]

end Selections

namespace LookupEvent

def series : LookupEvent → Text
  | searched series _ => series
  | chose series _ _ => series

def isChoice : LookupEvent → Bool
  | searched _ _ => false
  | chose _ _ _ => true

def about (name : Text) (log : List LookupEvent) : List LookupEvent :=
  log.filter fun e => SameName e.series name

theorem about_append (name : Text) (log new : List LookupEvent) :
    about name (log ++ new) = about name log ++ about name new := List.filter_append _ _

def choices (name : Text) (log : List LookupEvent) : List LookupEvent :=
  log.filter fun e => e.isChoice && SameName e.series name

theorem choices_searched (name series : Text) (answer : Except LookupError (List Candidate))
    (log : List LookupEvent) : choices name (searched series answer :: log) = choices name log := rfl

theorem mem_choices {name : Text} {log : List LookupEvent} {e : LookupEvent}
    (member : e ∈ choices name log) :
    ∃ series candidates id, e = chose series candidates id ∧ e ∈ log ∧ SameName series name := by
  obtain ⟨inside, chosen⟩ := List.mem_filter.1 member
  cases e with
  | searched _ _ => contradiction
  | chose series candidates id =>
    exact ⟨series, candidates, id, rfl, inside, of_decide_eq_true (Bool.and_eq_true_iff.1 chosen).2⟩

theorem choices_append (name : Text) (log new : List LookupEvent) :
    choices name (log ++ new) = choices name log ++ choices name new := List.filter_append _ _

end LookupEvent

inductive LookupCall
  | resolve (series : Text) (season : Nat) (episodes : List Nat)
  | get (series : Text)
  | insert (series : Text) (id : Nat)

inductive LookupAnswer
  | title (title : Option Text)
  | selection (id : Option Nat)
  | stored (id : Nat)

namespace LookupCall

def series : LookupCall → Text
  | resolve series _ _ => series
  | get series => series
  | insert series _ => series

def answer (lookup : Lookup σ) (s : LookupState σ) : LookupCall → LookupAnswer × LookupState σ
  | resolve series season episodes =>
    let (title, next) := lookup.resolveTitle series season episodes s
    (.title title, next)
  | get series => (.selection (s.selections.get? series), s)
  | insert series id =>
    let (stored, selections) := s.selections.insertIfAbsent series id
    (.stored stored, { s with selections := selections })

def run (lookup : Lookup σ) : List LookupCall → LookupState σ → List LookupAnswer × LookupState σ
  | [], s => ([], s)
  | call :: more, s =>
    let (answer, next) := call.answer lookup s
    let (answers, last) := run lookup more next
    (answer :: answers, last)

def Does (enabled : Bool) : LookupCall → Selections → List LookupEvent → Selections → Prop
  | resolve series _ episodes, s, new, next =>
    if enabled = true ∧ episodes ≠ [] then Selected series s new next else new = [] ∧ next = s
  | get _, s, new, next => new = [] ∧ next = s
  | insert series id, s, new, next => new = [] ∧ next = (s.insertIfAbsent series id).2

theorem answer_heard (lookup : Lookup σ) (call : LookupCall) (s : LookupState σ)
    (log : List LookupEvent) :
    ∃ new, call.Does lookup.enabled s.selections new (call.answer lookup s).2.selections ∧
      call.answer lookup.heard (s.heard log) =
        ((call.answer lookup s).1, (call.answer lookup s).2.heard (log ++ new)) := by
  cases call with
  | resolve series season episodes =>
    by_cases active : lookup.enabled = true ∧ episodes ≠ []
    · obtain ⟨new, selected, same⟩ :=
        lookup.resolveTitle_heard series season episodes s log active.1 active.2
      exact ⟨new, by simpa only [Does, if_pos active], by simp only [answer, same]⟩
    · have idle : ¬ lookup.enabled = true ∨ episodes = [] := by
        by_cases off : lookup.enabled = true <;> simp_all
      have heard_idle : ¬ lookup.heard.enabled = true ∨ episodes = [] := idle
      refine ⟨[], ?_, ?_⟩
      · simp only [Does, if_neg active, answer, Lookup.resolveTitle, if_pos idle, and_self]
      · simp only [answer, Lookup.resolveTitle, if_pos idle, if_pos heard_idle, List.append_nil]
  | get series => exact ⟨[], ⟨rfl, rfl⟩, by simp [answer, LookupState.heard]⟩
  | insert series id => exact ⟨[], ⟨rfl, rfl⟩, by simp [answer, LookupState.heard]⟩

end LookupCall

theorem Picked.choice {series : Text} {candidates : List Candidate} {choice : List LookupEvent}
    {id : Nat} (picked : Picked series candidates choice id) :
    choice = [] ∨ choice = [.chose series candidates id] := by
  cases picked with
  | none => exact Or.inl rfl
  | only c => exact Or.inl rfl
  | asked _ _ => exact Or.inr rfl

theorem Picked.of_nil {series : Text} {choice : List LookupEvent} {id : Nat}
    (picked : Picked series [] choice id) : id = 0 := by
  cases picked with
  | none => rfl
  | asked some _ => exact absurd rfl some

section
variable {enabled : Bool} {call : LookupCall} {s next : Selections} {new : List LookupEvent}

/-- A call either selects a series for its name, or it is not heard and inserts at most one id. -/
theorem LookupCall.Does.cases (does : call.Does enabled s new next) :
    Selected call.series s new next ∨
      new = [] ∧ (next = s ∨ ∃ id, next = (s.insertIfAbsent call.series id).2) := by
  cases call with
  | resolve series season episodes =>
    simp only [LookupCall.Does] at does
    split at does
    · exact Or.inl does
    · exact Or.inr ⟨does.1, Or.inl does.2⟩
  | get series => exact Or.inr ⟨does.1, Or.inl does.2⟩
  | insert series id => exact Or.inr ⟨does.1, Or.inr ⟨id, does.2⟩⟩

theorem LookupCall.Does.selections (does : call.Does enabled s new next) :
    next = s ∨ ∃ id, next = (s.insertIfAbsent call.series id).2 := by
  rcases does.cases with selected | ⟨_, next⟩
  · cases selected with
    | stored _ => exact Or.inl rfl
    | failed _ _ => exact Or.inl rfl
    | chosen _ _ => exact Or.inr ⟨_, rfl⟩
  · exact next

theorem LookupCall.Does.keeps (does : call.Does enabled s new next) {name : Text} {id : Nat}
    (known : s.get? name = some id) : next.get? name = some id := by
  rcases does.selections with rfl | ⟨new, rfl⟩
  · exact known
  · exact Selections.insertIfAbsent_keeps known _ _

theorem LookupCall.Does.other (does : call.Does enabled s new next) {name : Text}
    (different : ¬ SameName call.series name) : next.get? name = s.get? name := by
  rcases does.selections with rfl | ⟨new, rfl⟩
  · rfl
  · exact Selections.insertIfAbsent_other different _ _

theorem LookupCall.Does.heard (does : call.Does enabled s new next) {e : LookupEvent}
    (member : e ∈ new) : e.series = call.series ∧ s.get? call.series = none := by
  rcases does.cases with selected | ⟨rfl, _⟩
  · cases selected with
    | stored _ => contradiction
    | failed unknown _ =>
      obtain rfl := List.mem_singleton.1 member
      exact ⟨rfl, unknown⟩
    | chosen unknown picked =>
      refine ⟨?_, unknown⟩
      rcases picked.choice with rfl | rfl <;>
        simp only [List.mem_cons, List.not_mem_nil, or_false] at member
      · exact member ▸ rfl
      · rcases member with rfl | rfl <;> rfl
  · contradiction

theorem LookupCall.Does.silent (does : call.Does enabled s new next) {name : Text} {id : Nat}
    (known : s.get? name = some id) : LookupEvent.about name new = [] := by
  refine List.filter_eq_nil_iff.2 fun e member same => ?_
  obtain ⟨here, unknown⟩ := does.heard member
  have same : SameName e.series name := of_decide_eq_true same
  rw [← Selections.get?_same same, here, unknown] at known
  contradiction

end

structure Recorded (s : Selections) (log : List LookupEvent) : Prop where
  /-- A search that succeeded left an entry, which is 0 where nothing was found. -/
  found : ∀ {series candidates}, .searched series (.ok candidates) ∈ log →
    ∃ id, s.get? series = some id ∧ (candidates = [] → id = 0)
  chosen : ∀ {series candidates id}, .chose series candidates id ∈ log → s.get? series = some id
  once : ∀ name, (LookupEvent.choices name log).length ≤ 1

theorem recorded_nil (s : Selections) : Recorded s [] := by
  constructor <;> simp [LookupEvent.choices]

theorem Selected.recorded {series : Text} {s next : Selections} {new : List LookupEvent}
    (selected : Selected series s new next) : Recorded next new := by
  cases selected with
  | stored _ => exact recorded_nil s
  | failed _ e =>
    refine ⟨by simp, by simp, fun name => ?_⟩
    exact Nat.zero_le 1
  | @chosen unknown candidates choice id picked =>
    have stored := Selections.insertIfAbsent_unknown unknown id
    constructor
    · intro name found member
      rcases List.mem_cons.1 member with searched | later
      · cases searched
        refine ⟨id, stored, ?_⟩
        rintro rfl
        exact picked.of_nil
      · rcases picked.choice with rfl | rfl <;> simp at later
    · intro name found chosen member
      rcases List.mem_cons.1 member with searched | later
      · contradiction
      · rcases picked.choice with rfl | rfl
        · contradiction
        · cases List.mem_singleton.1 later
          exact stored
    · intro name
      rw [LookupEvent.choices_searched]
      rcases picked.choice with rfl | rfl
      · exact Nat.zero_le 1
      · exact List.length_filter_le _ _

theorem Selected.of_failed {series name : Text} {s next : Selections} {new : List LookupEvent}
    {e : LookupError} (selected : Selected series s new next)
    (member : .searched name (.error e) ∈ new) : next = s := by
  cases selected with
  | stored _ => rfl
  | failed _ _ => rfl
  | chosen _ picked => rcases picked.choice with rfl | rfl <;> simp at member

theorem Selected.searches {series : Text} {s next : Selections} {new : List LookupEvent}
    (selected : Selected series s new next) (unknown : s.get? series = none) :
    ∃ answer, .searched series answer ∈ new := by
  cases selected with
  | stored known =>
    rw [unknown] at known
    contradiction
  | failed _ e => exact ⟨_, List.mem_cons_self⟩
  | chosen _ _ => exact ⟨_, List.mem_cons_self⟩

theorem Recorded.step {enabled : Bool} {call : LookupCall} {s next : Selections}
    {log new : List LookupEvent} (recorded : Recorded s log)
    (does : call.Does enabled s new next) : Recorded next (log ++ new) := by
  have fresh : Recorded next new := by
    rcases does.cases with selected | ⟨rfl, _⟩
    · exact selected.recorded
    · exact recorded_nil next
  constructor
  · intro series candidates member
    rcases List.mem_append.1 member with before | now
    · obtain ⟨id, known, empty⟩ := recorded.found before
      exact ⟨id, does.keeps known, empty⟩
    · exact fresh.found now
  · intro series candidates id member
    rcases List.mem_append.1 member with before | now
    · exact does.keeps (recorded.chosen before)
    · exact fresh.chosen now
  · intro name
    rw [LookupEvent.choices_append]
    cases now : LookupEvent.choices name new with
    | nil => simpa using recorded.once name
    | cons e more =>
      -- a choice now shows that nothing was stored, so that there was none before
      have before : LookupEvent.choices name log = [] := by
        refine List.eq_nil_iff_forall_not_mem.2 fun old member => ?_
        obtain ⟨series, candidates, id, rfl, inside, same⟩ := LookupEvent.mem_choices member
        obtain ⟨again, _, _, rfl, current, also⟩ :=
          LookupEvent.mem_choices (now ▸ List.mem_cons_self : e ∈ LookupEvent.choices name new)
        obtain ⟨here, unknown⟩ := does.heard current
        have known := recorded.chosen inside
        rw [Selections.get?_same (same.trans also.symm), show again = call.series from here,
          unknown] at known
        contradiction
      simpa [before, now] using fresh.once name

namespace LookupCall

theorem run_append (lookup : Lookup σ) (calls more : List LookupCall) (s : LookupState σ) :
    (run lookup (calls ++ more) s).2 = (run lookup more (run lookup calls s).2).2 := by
  induction calls generalizing s with
  | nil => rfl
  | cons call calls ih => exact ih (call.answer lookup s).2

/-- What one call preserves, with what is heard of it, a run preserves. -/
theorem run_induct (lookup : Lookup σ) (holds : Selections → List LookupEvent → Prop)
    (step : ∀ (call : LookupCall) {s next : Selections} {log new : List LookupEvent},
      call.Does lookup.enabled s new next → holds s log → holds next (log ++ new))
    (calls : List LookupCall) (s : LookupState (Heard σ)) (here : holds s.selections s.outside.2) :
    holds (run lookup.heard calls s).2.selections (run lookup.heard calls s).2.outside.2 := by
  induction calls generalizing s with
  | nil => exact here
  | cons call more ih =>
    obtain ⟨new, does, same⟩ := call.answer_heard lookup ⟨s.selections, s.outside.1⟩ s.outside.2
    have next : call.answer lookup.heard s = _ := same
    have later := step call does here
    exact ih (call.answer lookup.heard s).2 (by rwa [next])

theorem run_heard (lookup : Lookup σ) (calls : List LookupCall) (s : LookupState σ)
    (log : List LookupEvent) :
    ∃ new, run lookup.heard calls (s.heard log) =
      ((run lookup calls s).1, (run lookup calls s).2.heard (log ++ new)) := by
  induction calls generalizing s log with
  | nil => exact ⟨[], by simp [run]⟩
  | cons call more ih =>
    obtain ⟨now, _, first⟩ := call.answer_heard lookup s log
    obtain ⟨later, rest⟩ := ih (call.answer lookup s).2 (log ++ now)
    exact ⟨now ++ later, by simp only [run, first, rest, List.append_assoc]⟩

end LookupCall

section
variable (lookup : Lookup σ) (outside : σ)

def Lookup.listen (calls : List LookupCall) : LookupState (Heard σ) :=
  (LookupCall.run lookup.heard calls ⟨{}, outside, []⟩).2

structure SelectsOnce (calls : List LookupCall) : Prop where
  unnoticed : (LookupCall.run lookup.heard calls ⟨{}, outside, []⟩).1 =
      (LookupCall.run lookup calls ⟨{}, outside⟩).1 ∧
    (lookup.listen outside calls).selections =
      (LookupCall.run lookup calls ⟨{}, outside⟩).2.selections
  kept : ∀ {series spelled id} more, (lookup.listen outside calls).selections.get? series = some id →
    SameName series spelled →
      (lookup.listen outside (calls ++ more)).selections.get? spelled = some id ∧
        LookupEvent.about series (lookup.listen outside (calls ++ more)).outside.2 =
          LookupEvent.about series (lookup.listen outside calls).outside.2
  recorded : Recorded (lookup.listen outside calls).selections (lookup.listen outside calls).outside.2
  /-- One more call is about its own name only; a search of it that fails leaves the selections, and
      while nothing is stored an enabled lookup searches. -/
  next : ∀ call, ∃ new,
    (lookup.listen outside (calls ++ [call])).outside.2 =
        (lookup.listen outside calls).outside.2 ++ new ∧
      (∀ series, ¬ SameName call.series series →
        (lookup.listen outside (calls ++ [call])).selections.get? series =
          (lookup.listen outside calls).selections.get? series) ∧
      (∀ series e, .searched series (.error e) ∈ new →
        (lookup.listen outside (calls ++ [call])).selections =
            (lookup.listen outside calls).selections ∧
          (lookup.listen outside calls).selections.get? series = none) ∧
      ∀ series season episodes, call = .resolve series season episodes → lookup.enabled = true →
        episodes ≠ [] → (lookup.listen outside calls).selections.get? series = none →
          ∃ answer, .searched series answer ∈ new

theorem listen_append (calls more : List LookupCall) :
    lookup.listen outside (calls ++ more) =
      (LookupCall.run lookup.heard more (lookup.listen outside calls)).2 :=
  LookupCall.run_append _ calls more _

theorem selectsOnce (calls : List LookupCall) : SelectsOnce lookup outside calls where
  unnoticed := by
    obtain ⟨new, same⟩ := LookupCall.run_heard lookup calls ⟨{}, outside⟩ []
    have start : (LookupState.heard ⟨{}, outside⟩ [] : LookupState (Heard σ)) =
        ⟨{}, outside, []⟩ := rfl
    rw [start] at same
    exact ⟨congrArg Prod.fst same, by rw [Lookup.listen, same]; rfl⟩
  kept := by
    intro series spelled id more known same
    rw [listen_append, ← Selections.get?_same same]
    have keeps := LookupCall.run_induct lookup
      (fun s log => s.get? series = some id ∧ LookupEvent.about series log =
        LookupEvent.about series (lookup.listen outside calls).outside.2)
      (fun call s next log new does ⟨stored, heard⟩ => ⟨does.keeps stored, by
        rw [LookupEvent.about_append, does.silent stored, heard, List.append_nil]⟩)
      more (lookup.listen outside calls) ⟨known, rfl⟩
    exact keeps
  recorded :=
    LookupCall.run_induct lookup Recorded (fun _ _ _ _ _ does recorded => recorded.step does) calls
      ⟨{}, outside, []⟩ (recorded_nil {})
  next := by
    intro call
    obtain ⟨new, does, same⟩ := call.answer_heard lookup
      ⟨(lookup.listen outside calls).selections, (lookup.listen outside calls).outside.1⟩
      (lookup.listen outside calls).outside.2
    have last : lookup.listen outside (calls ++ [call]) =
        (call.answer lookup.heard (lookup.listen outside calls)).2 := listen_append ..
    have reached : call.answer lookup.heard (lookup.listen outside calls) = _ := same
    rw [last, reached]
    refine ⟨new, rfl, fun series different => does.other different, fun series e member => ?_, ?_⟩
    · obtain ⟨name, unknown⟩ := does.heard member
      refine ⟨?_, (show series = call.series from name) ▸ unknown⟩
      rcases does.cases with selected | ⟨rfl, _⟩
      · exact selected.of_failed member
      · contradiction
    · rintro series season episodes rfl active some unknown
      simp only [LookupCall.Does, if_pos (And.intro active some)] at does
      exact does.searches unknown

end

end MediaNaming
