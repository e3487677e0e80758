import MediaNaming.Episode.BareNumber
import MediaNaming.Proofs.Episode.Reading
import MediaNaming.Proofs.Sector.Solid

/-
What one step of the scan does and how the evidence of a scan is completed, and what follows for
a whole run: sectors are respelled but never lost, and no episode is above 99.
-/
namespace MediaNaming

theorem Evidence.assertSeason_ok {input : Text} {season : Nat} {e after : Evidence}
    (asserted : e.assertSeason input season = .ok after) :
    after = { e with season := some season } ∧ ∀ n, e.season = some n → n = season := by
  simp only [assertSeason] at asserted
  split at asserted
  · rename_i first known
    split at asserted
    · rename_i same
      cases asserted
      cases e
      simp_all
    · simp at asserted
  · rename_i unknown
    cases asserted
    simp [unknown]

namespace Scan

inductive Stepped (input : Text) (s : Scan) : Scan → Prop
  | season {sector : Text} {rest : List Text} {season : Nat} {evidence : Evidence}
      (head : s.rest = sector :: rest) (seasons : seasonMarks sector = [season])
      (asserted : s.evidence.assertSeason input season = .ok evidence) :
      Stepped input s
        (s.pass sector rest ((evidence.addEpisodes (episodeMarks sector)).cover s.done.length))
  | episodes {sector : Text} {rest : List Text} (head : s.rest = sector :: rest)
      (seasons : seasonMarks sector = []) (named : episodeMarks sector ≠ []) :
      Stepped input s
        (s.pass sector rest ((s.evidence.addEpisodes (episodeMarks sector)).cover s.done.length))
  | respell {sector : Text} {rest : List Text} {mark : CrossMark} (head : s.rest = sector :: rest)
      (seasons : seasonMarks sector = []) (unnamed : episodeMarks sector = [])
      (only : crossMarks sector = [mark]) :
      Stepped input s { s with rest := mark.respelled :: rest }
  | pair {sector next : Text} {rest : List Text} {word : PairWord} {number : Nat} {after : Scan}
      (head : s.rest = sector :: next :: rest) (pairs : PairWord.ofSector? sector = some word)
      (short : shortNumber? next = some number)
      (passes : s.passPair input word number sector next rest = .ok after) : Stepped input s after
  | quiet {sector : Text} {rest : List Text} (head : s.rest = sector :: rest)
      (seasons : seasonMarks sector = []) (unnamed : episodeMarks sector = [])
      (uncrossed : crossMarks sector = []) (alone : pair? sector rest = none) :
      Stepped input s (s.pass sector rest s.evidence)

theorem pair?_eq_some {sector next : Text} {rest later : List Text} {word : PairWord} {number : Nat}
    (found : pair? sector rest = some (word, number, next, later)) :
    rest = next :: later ∧ PairWord.ofSector? sector = some word ∧
      shortNumber? next = some number := by
  cases rest with
  | nil => simp [pair?] at found
  | cons n more =>
    simp only [pair?] at found
    split at found
    · rename_i word number pairs short
      cases found
      exact ⟨rfl, pairs, short⟩
    · simp at found

theorem passPair_ok {input sector next : Text} {word : PairWord} {number : Nat}
    {rest : List Text} {s after : Scan}
    (passes : s.passPair input word number sector next rest = .ok after) : ∃ evidence,
      after = ⟨s.done ++ [sector, next], rest,
        (evidence.cover s.done.length).cover (s.done.length + 1)⟩ ∧
      match word with
      | .season => s.evidence.assertSeason input number = .ok evidence
      | .episode => evidence = { s.evidence with episodes := [number] } := by
  cases word with
  | season =>
    simp only [passPair, bind, Except.bind] at passes
    split at passes
    · simp at passes
    · rename_i evidence asserted
      cases passes
      exact ⟨evidence, rfl, asserted⟩
  | episode =>
    cases passes
    exact ⟨_, rfl, rfl⟩

theorem stepped {input : Text} {s after : Scan} (more : s.rest ≠ [])
    (step : s.step input = .ok after) : Stepped input s after := by
  simp only [Scan.step] at step
  split at step
  · contradiction
  · rename_i sector rest head
    split at step
    · rename_i seasons
      simp only [bind, Except.bind] at step
      split at step
      · simp at step
      · rename_i evidence asserted
        cases step
        exact .season head seasons asserted
    · rename_i e episodes seasons named
      cases step
      rw [← named]
      exact .episodes head seasons (by simp [named])
    · rename_i seasons unnamed
      split at step
      · rename_i mark only
        cases step
        exact .respell head seasons unnamed only
      · rename_i uncrossed
        split at step
        · rename_i word number next later found
          obtain ⟨rfl, pairs, short⟩ := pair?_eq_some found
          exact .pair head pairs short step
        · rename_i alone
          cases step
          exact .quiet head seasons unnamed uncrossed alone
      · simp at step
    · simp at step

/-- What each step keeps holds where a run ends, also when it ends in an error. -/
theorem run_keeps {input : Text} {P : Scan → Prop}
    (keeps : ∀ s after, P s → Stepped input s after → P after) {s : Scan} (start : P s) :
    P (s.run input).1 := by
  fun_induction run input s with
  | case1 s done => exact start
  | case2 s more after step ih => exact ih (keeps s after start (stepped more step))
  | case3 s more e step => exact start

end Scan

theorem readNumber?_lt_pow {limit n count : Nat} {t : Text} (few : t.length ≤ count)
    (read : t.readNumber? limit = some n) : n < 10 ^ count := by
  simp only [Text.readNumber?] at read
  split at read
  · rename_i number
    cases read
    have shorter : t.withoutPlus.length ≤ t.length := by
      unfold Text.withoutPlus
      split <;> simp
    exact Nat.lt_of_lt_of_le (decimalValue_lt (List.all_eq_true.1 number.2.1))
      (Nat.pow_le_pow_right (by decide) (shorter.trans few))
  · simp at read

theorem readNumber?_lt {limit n : Nat} {t : Text} (size : t.byteSize ≤ 2)
    (read : t.readNumber? limit = some n) : n < 100 :=
  readNumber?_lt_pow (t.length_le_byteSize.trans size) read

theorem shortNumber?_lt {n : Nat} {t : Text} (read : shortNumber? t = some n) : n < 100 := by
  simp only [shortNumber?] at read
  split at read
  · rename_i short
    exact readNumber?_lt short.2 read
  · simp at read

theorem mem_readWords {read : Text → List Nat} {opens : Bool} {t : Text} {n : Nat}
    (member : n ∈ readWords read opens t) : ∃ s, n ∈ read s := by
  induction t generalizing opens with
  | nil => simp [readWords] at member
  | cons c t ih =>
    simp only [readWords, List.mem_append] at member
    rcases member with here | later
    · split at here
      · exact ⟨_, here⟩
      · simp at here
    · exact ih later

theorem episodeMarks_lt {sector : Text} : ∀ n ∈ episodeMarks sector, n < 100 := by
  intro n member
  obtain ⟨s, here⟩ := mem_readWords member
  cases s with
  | nil => simp [episodeAt] at here
  | cons c rest =>
    simp only [episodeAt] at here
    split at here
    · rcases List.mem_append.1 here with first | last
      · exact shortNumber?_lt (Option.mem_toList.1 first)
      · obtain ⟨digits, _, read⟩ := Option.bind_eq_some_iff.1 (Option.mem_toList.1 last)
        exact shortNumber?_lt read
    · simp at here

namespace Scan

structure Sound (s : Scan) : Prop where
  bounded : ∀ n ∈ s.evidence.episodes, n < 100
  sectors : ∀ t ∈ s.sectors, t ≠ [] ∧ Solid t

theorem mem_respelled {sector : Text} {mark : CrossMark} (member : mark ∈ crossMarks sector)
    {c : Char} (inside : c ∈ mark.respelled) : c = 'S' ∨ c = 'E' ∨ c ∈ sector := by
  have text := (CrossMark.mem_all (List.mem_filter.1 member).1).1
  rw [List.nil_append] at text
  rw [← text]
  simp only [CrossMark.respelled, CrossMark.written, List.mem_append, List.mem_cons] at inside ⊢
  tauto

theorem forall_respelled {P : Char → Prop} (letters : P 'S' ∧ P 'E') {sector : Text}
    {mark : CrossMark} (member : mark ∈ crossMarks sector) (all : ∀ c ∈ sector, P c) :
    ∀ c ∈ mark.respelled, P c := by
  intro c inside
  rcases mem_respelled member inside with rfl | rfl | old
  · exact letters.1
  · exact letters.2
  · exact all c old

theorem solid_respelled {sector : Text} {mark : CrossMark} (member : mark ∈ crossMarks sector)
    (solid : Solid sector) : mark.respelled ≠ [] ∧ Solid mark.respelled :=
  ⟨by simp [CrossMark.respelled], forall_respelled (by decide) member solid⟩

/-- A step leaves the sectors as they are, or respells the one under it. -/
theorem stepped_sectors {input : Text} {s after : Scan} (stepped : Stepped input s after) :
    after.sectors = s.sectors ∨ ∃ sector later mark, s.rest = sector :: later ∧
      seasonMarks sector = [] ∧ episodeMarks sector = [] ∧ crossMarks sector = [mark] ∧
        after = { s with rest := mark.respelled :: later } := by
  cases stepped with
  | season head seasons asserted => exact Or.inl (by simp [Scan.sectors, pass, head])
  | episodes head seasons named => exact Or.inl (by simp [Scan.sectors, pass, head])
  | @respell sector later mark head seasons unnamed only =>
    exact Or.inr ⟨sector, later, mark, head, seasons, unnamed, only, rfl⟩
  | pair head pairs short passes =>
    obtain ⟨evidence, rfl, -⟩ := passPair_ok passes
    exact Or.inl (by simp [Scan.sectors, head])
  | quiet head seasons unnamed uncrossed alone =>
    exact Or.inl (by simp [Scan.sectors, pass, head])

theorem run_sectors {P : Text → Prop} (input : Text)
    (keeps : ∀ sector, ∀ mark ∈ crossMarks sector, P sector → P mark.respelled)
    {sectors : List Text} (holds : ∀ t ∈ sectors, P t) :
    ∀ t ∈ ((start sectors).run input).1.sectors, P t := by
  apply run_keeps (P := fun s => ∀ t ∈ s.sectors, P t)
  · intro s after holds stepped t member
    rcases stepped_sectors stepped with same | ⟨sector, later, mark, head, _, _, only, rfl⟩
    · exact holds t (same ▸ member)
    · simp only [Scan.sectors, List.mem_append, List.mem_cons] at member
      rcases member with earlier | rfl | behind
      · exact holds t (by simp [Scan.sectors, earlier])
      · exact keeps sector mark (by simp [only]) (holds sector (by simp [Scan.sectors, head]))
      · exact holds t (by simp [Scan.sectors, head, behind])
  · simpa [start, Scan.sectors] using holds

theorem bounded_stepped {input : Text} {s after : Scan}
    (bounded : ∀ n ∈ s.evidence.episodes, n < 100) (stepped : Stepped input s after) :
    ∀ n ∈ after.evidence.episodes, n < 100 := by
  have marked {e : Evidence} {sector : Text} (same : e.episodes = s.evidence.episodes) :
      ∀ n ∈ ((e.addEpisodes (episodeMarks sector)).cover s.done.length).episodes, n < 100 := by
    intro n member
    simp only [Evidence.cover, Evidence.addEpisodes, same, List.mem_append] at member
    exact member.elim (bounded n) (episodeMarks_lt n)
  cases stepped with
  | season head seasons asserted =>
    obtain ⟨rfl, -⟩ := Evidence.assertSeason_ok asserted
    exact marked rfl
  | episodes head seasons named => exact marked rfl
  | respell head seasons unnamed only => exact bounded
  | @pair sector next later word number after head pairs short passes =>
    obtain ⟨evidence, rfl, told⟩ := passPair_ok passes
    cases word with
    | season =>
      obtain ⟨rfl, -⟩ := Evidence.assertSeason_ok told
      exact bounded
    | episode =>
      subst told
      simpa [Evidence.cover] using shortNumber?_lt short
  | quiet head seasons unnamed uncrossed alone => exact bounded

theorem sound_run (input : Text) {sectors : List Text} (solid : ∀ t ∈ sectors, t ≠ [] ∧ Solid t) :
    ((start sectors).run input).1.Sound where
  bounded := run_keeps (fun _ _ bounded stepped => bounded_stepped bounded stepped)
    (by simp [start])
  sectors := run_sectors input (fun _ _ member whole => solid_respelled member whole.2) solid

end Scan

namespace Evidence

theorem readBareNumber_lt {number : Text} {season episode : Option Nat}
    (read : readBareNumber number = .ok (season, episode)) : ∀ n ∈ episode, n < 100 := by
  intro n here
  simp only [readBareNumber] at read
  split at read
  · rename_i short
    cases read
    exact readNumber?_lt (by omega) here
  · rename_i long
    split at read
    · rename_i lead tail taken dropped
      cases read
      obtain ⟨front, text, size⟩ := Text.dropBytes?_some dropped
      have total := congrArg Text.byteSize text
      rw [Text.byteSize_append] at total
      exact readNumber?_lt (by omega) here
    · simp at read

theorem leadingNumber?_lt {sectors : List Text} {n : Nat}
    (led : leadingNumber? sectors = some n) : n < 100 := by
  cases sectors with
  | nil => simp [leadingNumber?] at led
  | cons sector rest =>
    obtain ⟨run, first, read⟩ := Option.bind_eq_some_iff.1 led
    exact readNumber?_lt (by simpa using List.find?_some first) read

inductive Completed (sectors : List Text) (e : Evidence) : Evidence → Prop
  | named (named : e.episodes ≠ []) : Completed sectors e e
  | leading {n : Nat} (unnamed : e.episodes = []) (led : leadingNumber? sectors = some n) :
      Completed sectors e ⟨e.season, [n], some (0, 0)⟩
  | bare {number : Text} {index episode : Nat} {season : Option Nat}
      (unnamed : e.episodes = []) (unled : leadingNumber? sectors = none)
      (only : bareNumbers sectors e.block = [(number, index)])
      (read : readBareNumber number = .ok (season, some episode))
      (agrees : ∀ n ∈ season, ∀ m ∈ e.season, m = n) :
      Completed sectors e ⟨season.or e.season, [episode], (e.cover index).block⟩
  | unnamed (unnamed : e.episodes = []) (unled : leadingNumber? sectors = none)
      (unread : ∀ number index season episode, bareNumbers sectors e.block = [(number, index)] →
        readBareNumber number ≠ .ok (season, some episode)) : Completed sectors e e

theorem completed {input : Text} {sectors : List Text} {e found : Evidence}
    (completes : e.complete input sectors = .ok found) : e.Completed sectors found := by
  by_cases unnamed : e.episodes = []
  · simp only [complete, unnamed, ne_eq, not_true, if_false] at completes
    cases led : leadingNumber? sectors with
    | some n =>
      simp only [addLeadingNumber, led, addEpisodes, unnamed] at completes
      cases completes
      exact .leading unnamed led
    | none =>
      simp only [addLeadingNumber, led, unnamed, not_true, if_false, addBareNumber] at completes
      split at completes
      · rename_i number index only
        cases read : readBareNumber number with
        | error failure => simp [read, bind, Except.bind] at completes
        | ok pair =>
          obtain ⟨season, episode⟩ := pair
          simp only [read, bind, Except.bind] at completes
          cases episode with
          | none =>
            cases completes
            refine .unnamed unnamed led fun other _ season episode same => ?_
            rw [only, List.cons.injEq, Prod.mk.injEq] at same
            simp [← same.1.1, read]
          | some episode =>
            cases season with
            | none =>
              have bare := Completed.bare unnamed led only read (by simp)
              cases completes
              simpa [addEpisodes, cover, unnamed] using bare
            | some season =>
              simp only at completes
              split at completes
              · simp at completes
              · rename_i after asserted
                obtain ⟨rfl, agrees⟩ := assertSeason_ok asserted
                have bare := Completed.bare unnamed led only read (by simpa using agrees)
                cases completes
                simpa [addEpisodes, cover, unnamed] using bare
      · rename_i several
        cases completes
        exact .unnamed unnamed led fun number index _ _ only => absurd only (several number index)
  · rw [complete, if_pos unnamed] at completes
    cases completes
    exact .named unnamed

theorem complete_lt {input : Text} {sectors : List Text} {e found : Evidence}
    (bounded : ∀ n ∈ e.episodes, n < 100) (completes : e.complete input sectors = .ok found) :
    ∀ n ∈ found.episodes, n < 100 := by
  have single {n : Nat} (small : n < 100) : ∀ m ∈ [n], m < 100 := by simpa using small
  cases completed completes with
  | named named => exact bounded
  | leading unnamed led => exact single (leadingNumber?_lt led)
  | bare unnamed unled only read agrees => exact single (readBareNumber_lt read _ rfl)
  | unnamed unnamed unled unread => exact bounded

end Evidence
end MediaNaming
