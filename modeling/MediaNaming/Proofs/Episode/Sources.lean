import MediaNaming.Proofs.Episode.Respelling

/-
Where the numbers come from. A season or an episode is given by a mark in a sector, or by a word
and the number after it. Whatever gives a number among the sectors that the scan has passed lies
inside the block, and each number that the scan has found is given by one of them.
-/
namespace MediaNaming

def PairAt (sectors : List Text) (word : PairWord) (index number : Nat) : Prop :=
  ∃ sector next, sectors[index]? = some sector ∧ PairWord.ofSector? sector = some word ∧
    sectors[index + 1]? = some next ∧ shortNumber? next = some number

def PairWord.marks : PairWord → Text → List Nat
  | .season => seasonMarks
  | .episode => episodeMarks

inductive Gives (sectors : List Text) (word : PairWord) (n : Nat) : Nat → Prop
  | mark {index : Nat} {sector : Text} (here : sectors[index]? = some sector)
      (marked : n ∈ word.marks sector) : Gives sectors word n index
  | word {index : Nat} (pair : PairAt sectors word index n) : Gives sectors word n index
  | number {index : Nat} (pair : PairAt sectors word index n) : Gives sectors word n (index + 1)

theorem ofSector?_of_marked {word other : PairWord} {sector : Text} {n : Nat}
    (marked : n ∈ word.marks sector) : PairWord.ofSector? sector ≠ some other := by
  intro pairs
  have quiet := quiet_of_word pairs
  cases word with
  | season => simp [PairWord.marks, quiet.seasons] at marked
  | episode => simp [PairWord.marks, quiet.episodes] at marked

/-- A number is no word, so pairs do not overlap. -/
theorem ofSector?_of_short {t : Text} {n : Nat} (short : shortNumber? t = some n) :
    PairWord.ofSector? t = none := by
  obtain ⟨nonempty, digits, _⟩ := shortNumber?_some short
  obtain ⟨c, more, rfl⟩ := List.exists_cons_of_ne_nil nonempty
  exact ofSector?_of_decimal ⟨c, by simp, digits c (by simp)⟩

theorem getElem?_head {done rest : List Text} {s : Text} :
    (done ++ s :: rest)[done.length]? = some s := by
  simp

theorem getElem?_other {done rest : List Text} {s t : Text} {i : Nat} (other : i ≠ done.length) :
    (done ++ s :: rest)[i]? = (done ++ t :: rest)[i]? := by
  have exchanged : (done ++ s :: rest).set done.length t = done ++ t :: rest := by simp
  rw [← exchanged, List.getElem?_set_ne other.symm]

theorem pairAt_apart {done rest : List Text} {s t : Text} {word : PairWord} {i n : Nat}
    (apart : Apart s) (pair : PairAt (done ++ s :: rest) word i n) :
    PairAt (done ++ t :: rest) word i n := by
  obtain ⟨sector, next, here, pairs, after, short⟩ := pair
  have first : i ≠ done.length := by
    rintro rfl
    rw [getElem?_head, Option.some.injEq] at here
    rw [← here, apart.word] at pairs
    contradiction
  have second : i + 1 ≠ done.length := by
    intro same
    rw [same, getElem?_head, Option.some.injEq] at after
    rw [← after, apart.number] at short
    contradiction
  rw [getElem?_other first] at here
  rw [getElem?_other second] at after
  exact ⟨sector, next, here, pairs, after, short⟩

theorem gives_apart {done rest : List Text} {s t : Text} {word : PairWord} {i n : Nat}
    (apart : Apart s) (unmarked : n ∉ word.marks s ∨ i ≠ done.length)
    (gives : Gives (done ++ s :: rest) word n i) : Gives (done ++ t :: rest) word n i := by
  cases gives with
  | @mark index sector here marked =>
    by_cases at_head : i = done.length
    · subst at_head
      rw [getElem?_head, Option.some.injEq] at here
      rw [here] at unmarked
      simp [marked] at unmarked
    · rw [getElem?_other at_head] at here
      exact .mark here marked
  | word pair => exact .word (pairAt_apart apart pair)
  | number pair => exact .number (pairAt_apart apart pair)

namespace Evidence

theorem covered_cover {e : Evidence} {index i : Nat}
    (here : isOutside e.block i = false ∨ i = index) :
    isOutside (e.cover index).block i = false := by
  cases block : e.block with
  | none => 
    have same : i = index := by simpa [isOutside, block] using here
    simp [isOutside, cover, block, same]
  | some span =>
    obtain ⟨start, stop⟩ := span
    simp only [isOutside, block, Option.all_some, Bool.or_eq_false_iff, decide_eq_false_iff_not,
      Nat.not_lt, cover] at here ⊢
    omega

/-- What the evidence says already it goes on to say. -/
structure Grows (e after : Evidence) : Prop where
  block : ∀ i, isOutside e.block i = false → isOutside after.block i = false
  season : ∀ n, e.season = some n → after.season = some n
  episodes : e.episodes ≠ [] → after.episodes ≠ []

def Tells (e : Evidence) : PairWord → Nat → Prop
  | .season, n => e.season = some n
  | .episode, _ => e.episodes ≠ []

theorem Grows.tells {e after : Evidence} (grows : Grows e after) {word : PairWord} {n : Nat}
    (tells : e.Tells word n) : after.Tells word n := by
  cases word with
  | season => exact grows.season n tells
  | episode => exact grows.episodes tells

theorem grows_refl (e : Evidence) : Grows e e := ⟨fun _ here => here, fun _ same => same, id⟩

theorem Grows.trans {e middle after : Evidence} (first : Grows e middle)
    (second : Grows middle after) : Grows e after :=
  ⟨fun i here => second.block i (first.block i here),
    fun n same => second.season n (first.season n same),
    fun named => second.episodes (first.episodes named)⟩

theorem grows_assertSeason {input : Text} {season : Nat} {e after : Evidence}
    (asserted : e.assertSeason input season = .ok after) : Grows e after := by
  obtain ⟨rfl, known⟩ := assertSeason_ok asserted
  exact ⟨fun _ here => here, fun n same => by rw [known n same], id⟩

theorem grows_addEpisodes (e : Evidence) (episodes : List Nat) :
    Grows e (e.addEpisodes episodes) :=
  ⟨fun _ here => here, fun _ same => same, fun named => by simp [addEpisodes, named]⟩

theorem grows_cover (e : Evidence) (index : Nat) : Grows e (e.cover index) :=
  ⟨fun _ here => covered_cover (Or.inl here), fun _ same => same, id⟩

end Evidence

namespace Scan

/-- What the evidence tells of the sectors passed so far: the block covers whatever gives a number,
    and each number comes from such a sector. -/
structure Traced (s : Scan) : Prop where
  given : ∀ word n i, i < s.done.length → Gives s.sectors word n i →
    isOutside s.evidence.block i = false ∧ s.evidence.Tells word n
  season : ∀ n ∈ s.evidence.season, ∃ i, Gives s.sectors .season n i
  episodes : ∀ n ∈ s.evidence.episodes, ∃ i, Gives s.sectors .episode n i
  apart : ∀ word n i, PairAt s.sectors word i n → i + 1 ≠ s.done.length

variable {input : Text} {s after : Scan}

theorem sectors_head {sector : Text} {later : List Text} (head : s.rest = sector :: later) :
    s.sectors[s.done.length]? = some sector ∧ s.sectors[s.done.length + 1]? = later.head? := by
  rw [sectors, head]
  constructor
  · exact getElem?_head
  · rw [List.getElem?_append_right (by omega)]
    simp [List.head?_eq_getElem?]

theorem pairAt_head {sector : Text} {later : List Text} (head : s.rest = sector :: later)
    {word : PairWord} {n : Nat} (pair : PairAt s.sectors word s.done.length n) :
    PairWord.ofSector? sector = some word ∧ numberAhead later = some n := by
  obtain ⟨t, next, here, pairs, follows, short⟩ := pair
  obtain ⟨first, second⟩ := sectors_head head
  rw [first, Option.some.injEq] at here
  rw [second] at follows
  exact ⟨here ▸ pairs, by simp [numberAhead, follows, short]⟩

theorem gives_head (traced : Traced s) {sector : Text} {later : List Text}
    (head : s.rest = sector :: later) {word : PairWord} {n : Nat}
    (gives : Gives s.sectors word n s.done.length) :
    n ∈ word.marks sector ∨
      (PairWord.ofSector? sector = some word ∧ numberAhead later = some n) := by
  generalize at_head : s.done.length = index at gives
  cases gives with
  | mark here marked =>
    rw [← at_head, (sectors_head head).1, Option.some.injEq] at here
    exact Or.inl (here ▸ marked)
  | word pair => exact Or.inr (pairAt_head head (at_head ▸ pair))
  | number pair => exact absurd at_head.symm (traced.apart word n _ pair)

theorem Traced.pass (traced : Traced s) (same : after.sectors = s.sectors)
    (grows : s.evidence.Grows after.evidence)
    (given : ∀ word n i, s.done.length ≤ i → i < after.done.length → Gives s.sectors word n i →
      isOutside after.evidence.block i = false ∧ after.evidence.Tells word n)
    (season : ∀ n ∈ after.evidence.season, n ∈ s.evidence.season ∨ ∃ i, Gives s.sectors .season n i)
    (episodes : ∀ n ∈ after.evidence.episodes,
      n ∈ s.evidence.episodes ∨ ∃ i, Gives s.sectors .episode n i)
    (apart : ∀ word n i, PairAt s.sectors word i n → i + 1 ≠ after.done.length) : Traced after where
  given word n i passed gives := by
    rw [same] at gives
    by_cases earlier : i < s.done.length
    · obtain ⟨covered, tells⟩ := traced.given word n i earlier gives
      exact ⟨grows.block i covered, grows.tells tells⟩
    · exact given word n i (by omega) passed gives
  season n found := by
    rw [same]
    exact (season n found).elim (traced.season n) id
  episodes n found := by
    rw [same]
    exact (episodes n found).elim (traced.episodes n) id
  apart word n i pair := apart word n i (same ▸ pair)

theorem Traced.mark (traced : Traced s) {sector : Text} {later : List Text} {e : Evidence}
    (head : s.rest = sector :: later) (alone : PairWord.ofSector? sector = none)
    (grows : s.evidence.Grows e) (tells : ∀ word, ∀ n ∈ word.marks sector, e.Tells word n)
    (season : ∀ n ∈ e.season, n ∈ s.evidence.season ∨ n ∈ seasonMarks sector)
    (episodes : ∀ n ∈ e.episodes, n ∈ s.evidence.episodes ∨ n ∈ episodeMarks sector) :
    Traced (s.pass sector later (e.cover s.done.length)) := by
  have here := (sectors_head head).1
  apply traced.pass
  · simp [sectors, Scan.pass, head]
  · exact grows.trans (Evidence.grows_cover e _)
  · intro word n i low high gives
    obtain rfl : s.done.length = i := by
      simp only [Scan.pass, List.length_append, List.length_singleton] at high
      omega
    refine ⟨Evidence.covered_cover (Or.inr rfl), ?_⟩
    rcases gives_head traced head gives with marked | ⟨pairs, _⟩
    · exact (Evidence.grows_cover e _).tells (tells word n marked)
    · rw [alone] at pairs
      contradiction
  · exact fun n found => (season n found).imp_right fun marked => ⟨_, .mark here marked⟩
  · exact fun n found => (episodes n found).imp_right fun marked => ⟨_, .mark here marked⟩
  · intro word n i pair last
    obtain rfl : i = s.done.length := by simpa [Scan.pass] using last
    rw [(pairAt_head head pair).1] at alone
    contradiction

theorem ofSector?_of_mark {word : PairWord} {sector : Text} (marked : word.marks sector ≠ []) :
    PairWord.ofSector? sector = none := by
  obtain ⟨n, more, marks⟩ := List.exists_cons_of_ne_nil marked
  by_contra pairs
  obtain ⟨other, pairs⟩ := Option.ne_none_iff_exists'.1 pairs
  exact ofSector?_of_marked (show n ∈ word.marks sector by simp [marks]) pairs

theorem Traced.respell (traced : Traced s) {sector : Text} {later : List Text} {mark : CrossMark}
    (head : s.rest = sector :: later) (seasons : seasonMarks sector = [])
    (unnamed : episodeMarks sector = []) (only : crossMarks sector = [mark]) :
    Traced { s with rest := mark.respelled :: later } := by
  have apart := apart_crossMark (show mark ∈ crossMarks sector by simp [only])
  have before : s.sectors = s.done ++ sector :: later := by rw [sectors, head]
  have unmarked (word : PairWord) (n : Nat) : n ∉ word.marks sector := by
    cases word <;> simp [PairWord.marks, seasons, unnamed]
  have kept {word : PairWord} {n i : Nat} (gives : Gives s.sectors word n i) :
      Gives (s.done ++ mark.respelled :: later) word n i :=
    gives_apart apart.1 (Or.inl (unmarked word n)) (before ▸ gives)
  constructor
  · intro word n i passed gives
    have earlier : Gives (s.done ++ sector :: later) word n i :=
      gives_apart apart.2 (Or.inr (Nat.ne_of_lt passed)) gives
    exact traced.given word n i passed (before ▸ earlier)
  · exact fun n found => (traced.season n found).imp fun _ => kept
  · exact fun n found => (traced.episodes n found).imp fun _ => kept
  · intro word n i pair
    exact traced.apart word n i (before ▸ pairAt_apart apart.2 pair)

theorem gives_next {sector next : Text} {later : List Text} (head : s.rest = sector :: next :: later)
    {number : Nat} (short : shortNumber? next = some number) {word : PairWord} {n : Nat}
    (gives : Gives s.sectors word n (s.done.length + 1)) :
    PairWord.ofSector? sector = some word ∧ n = number := by
  have here : s.sectors[s.done.length + 1]? = some next := (sectors_head head).2
  generalize at_next : s.done.length + 1 = index at gives
  cases gives with
  | mark found marked =>
    rw [← at_next, here, Option.some.injEq] at found
    have quiet := quiet_of_digits (found ▸ (shortNumber?_some short).2.1)
    cases word <;> simp [PairWord.marks, quiet.seasons, quiet.episodes] at marked
  | word pair =>
    obtain ⟨t, _, found, pairs, _, _⟩ := pair
    rw [← at_next, here, Option.some.injEq] at found
    rw [← found, ofSector?_of_short short] at pairs
    contradiction
  | number pair =>
    obtain rfl : s.done.length = _ := Nat.succ.inj at_next
    obtain ⟨pairs, ahead⟩ := pairAt_head head pair
    simp only [numberAhead, List.head?_cons, Option.bind_some, short, Option.some.injEq] at ahead
    exact ⟨pairs, ahead.symm⟩

theorem Traced.pair (traced : Traced s) {sector next : Text} {later : List Text} {word : PairWord}
    {number : Nat} {e : Evidence} (head : s.rest = sector :: next :: later)
    (pairs : PairWord.ofSector? sector = some word) (short : shortNumber? next = some number)
    (grows : s.evidence.Grows e) (tells : e.Tells word number)
    (season : ∀ n ∈ e.season, n ∈ s.evidence.season ∨ (word = .season ∧ n = number))
    (episodes : ∀ n ∈ e.episodes, n ∈ s.evidence.episodes ∨ (word = .episode ∧ n = number)) :
    Traced ⟨s.done ++ [sector, next], later,
      (e.cover s.done.length).cover (s.done.length + 1)⟩ := by
  have here : PairAt s.sectors word s.done.length number :=
    ⟨sector, next, (sectors_head head).1, pairs, (sectors_head head).2, short⟩
  have covers : e.Grows ((e.cover s.done.length).cover (s.done.length + 1)) :=
    (Evidence.grows_cover _ _).trans (Evidence.grows_cover _ _)
  have at_word {other : PairWord} {n : Nat} (gives : Gives s.sectors other n s.done.length) :
      PairWord.ofSector? sector = some other ∧ n = number := by
    rcases gives_head traced head gives with marked | ⟨same, ahead⟩
    · exact absurd pairs (ofSector?_of_marked marked)
    · simp only [numberAhead, List.head?_cons, Option.bind_some, short, Option.some.injEq] at ahead
      exact ⟨same, ahead.symm⟩
  have told {other : PairWord} {n : Nat}
      (same : PairWord.ofSector? sector = some other ∧ n = number) :
      Evidence.Tells ((e.cover s.done.length).cover (s.done.length + 1)) other n := by
    obtain ⟨wordy, rfl⟩ := same
    rw [pairs, Option.some.injEq] at wordy
    exact covers.tells (wordy ▸ tells)
  apply traced.pass
  · simp [sectors, head]
  · exact grows.trans covers
  · intro other n i low high gives
    simp only [List.length_append, List.length_cons, List.length_nil] at high
    rcases Nat.eq_or_lt_of_le low with rfl | later
    · exact ⟨Evidence.covered_cover (Or.inl (Evidence.covered_cover (Or.inr rfl))),
        told (at_word gives)⟩
    · obtain rfl : s.done.length + 1 = i := by omega
      exact ⟨Evidence.covered_cover (Or.inr rfl), told (gives_next head short gives)⟩
  · intro n found
    refine (season n found).imp_right ?_
    rintro ⟨rfl, rfl⟩
    exact ⟨_, .word here⟩
  · intro n found
    refine (episodes n found).imp_right ?_
    rintro ⟨rfl, rfl⟩
    exact ⟨_, .word here⟩
  · intro other n i pair last
    obtain rfl : i = s.done.length + 1 := by simpa using last
    obtain ⟨same, _⟩ := gives_next head short (.word pair)
    obtain ⟨t, _, found, wordy, _, _⟩ := pair
    rw [(sectors_head head).2, List.head?_cons, Option.some.injEq] at found
    rw [← found, ofSector?_of_short short] at wordy
    contradiction

theorem Traced.quiet (traced : Traced s) {sector : Text} {later : List Text}
    (head : s.rest = sector :: later) (unmarked : ∀ word : PairWord, word.marks sector = [])
    (alone : pair? sector later = none) : Traced (s.pass sector later s.evidence) := by
  have nothing {word : PairWord} {n : Nat} : ¬ Gives s.sectors word n s.done.length := by
    intro gives
    rcases gives_head traced head gives with marked | ⟨pairs, ahead⟩
    · simp [unmarked] at marked
    · simp [pair?_eq_none, pairs, ahead] at alone
  apply traced.pass
  · simp [sectors, Scan.pass, head]
  · exact Evidence.grows_refl _
  · intro word n i low high gives
    obtain rfl : s.done.length = i := by
      simp only [Scan.pass, List.length_append, List.length_singleton] at high
      omega
    exact absurd gives nothing
  · exact fun n found => Or.inl found
  · exact fun n found => Or.inl found
  · intro word n i pair last
    obtain rfl : i = s.done.length := by simpa [Scan.pass] using last
    exact nothing (.word pair)

theorem traced_stepped (traced : Traced s) (stepped : Stepped input s after) : Traced after := by
  cases stepped with
  | @season sector later season evidence head seasons asserted =>
    obtain ⟨same, _⟩ := Evidence.assertSeason_ok asserted
    apply traced.mark head
    · exact ofSector?_of_mark (show PairWord.season.marks sector ≠ [] by simp [PairWord.marks, seasons])
    · exact (Evidence.grows_assertSeason asserted).trans (Evidence.grows_addEpisodes _ _)
    · intro word n found
      cases word with
      | season => simp_all [Evidence.Tells, Evidence.addEpisodes, PairWord.marks]
      | episode =>
        have named : episodeMarks sector ≠ [] := List.ne_nil_of_mem found
        simp [Evidence.Tells, Evidence.addEpisodes, named]
    · intro n found
      right
      simpa [Evidence.addEpisodes, same, seasons, eq_comm] using found
    · intro n found
      simpa [Evidence.addEpisodes, same] using found
  | @episodes sector later head seasons named =>
    apply traced.mark head
    · exact ofSector?_of_mark (show PairWord.episode.marks sector ≠ [] from named)
    · exact Evidence.grows_addEpisodes _ _
    · intro word n found
      cases word with
      | season => simp [PairWord.marks, seasons] at found
      | episode => simp [Evidence.Tells, Evidence.addEpisodes, named]
    · exact fun n found => Or.inl found
    · intro n found
      simpa [Evidence.addEpisodes] using found
  | respell head seasons unnamed only => exact traced.respell head seasons unnamed only
  | @pair sector next later word number after head pairs short passes =>
    obtain ⟨evidence, rfl, told⟩ := passPair_ok passes
    cases word with
    | season =>
      obtain ⟨same, _⟩ := Evidence.assertSeason_ok told
      refine traced.pair head pairs short (Evidence.grows_assertSeason told) ?_ ?_ ?_
      · simp [Evidence.Tells, same]
      · intro n found
        exact Or.inr ⟨rfl, by simpa [same, eq_comm] using found⟩
      · exact fun n found => Or.inl (by simpa [same] using found)
    | episode =>
      refine traced.pair head pairs short ?_ ?_ ?_ ?_
      · exact told ▸ ⟨fun _ here => here, fun _ same => same, fun _ => by simp⟩
      · simp [Evidence.Tells, told]
      · exact fun n found => Or.inl (by simpa [told] using found)
      · intro n found
        exact Or.inr ⟨rfl, by simpa [told] using found⟩
  | quiet head seasons unnamed uncrossed alone =>
    apply traced.quiet head _ alone
    intro word
    cases word <;> assumption

theorem traced_run (input : Text) (sectors : List Text) :
    ((start sectors).run input).1.Traced := by
  apply run_keeps fun _ _ traced stepped => traced_stepped traced stepped
  constructor <;> simp [start]

end Scan
end MediaNaming
