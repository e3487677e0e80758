import MediaNaming.Proofs.Episode.Sources

/-
The block of evidence. Where the scan finds no episode, a number without a mark supplies one. A
bare number extends the block to its own sector; a leading number takes the place of the block.
So the block covers all that supplies a season or an episode, unless a leading number is used and
a season is given behind it. What the block covers has no part in the series name and the title.
-/
namespace MediaNaming

/-- The sector at an index supplies a season or an episode: it gives it, or it is the number
    without a mark from which the evidence of the scan is completed. -/
inductive Supplies (scan : Scan) : PairWord → Nat → Nat → Prop
  | given {word : PairWord} {n i : Nat} (gives : Gives scan.sectors word n i) :
      Supplies scan word n i
  | leading {n : Nat} (unnamed : scan.evidence.episodes = [])
      (led : leadingNumber? scan.sectors = some n) : Supplies scan .episode n 0
  | bareEpisode {number : Text} {i n : Nat} {season : Option Nat}
      (unnamed : scan.evidence.episodes = []) (unled : leadingNumber? scan.sectors = none)
      (only : bareNumbers scan.sectors scan.evidence.block = [(number, i)])
      (read : readBareNumber number = .ok (season, some n)) : Supplies scan .episode n i
  | bareSeason {number : Text} {i n episode : Nat}
      (unnamed : scan.evidence.episodes = []) (unled : leadingNumber? scan.sectors = none)
      (only : bareNumbers scan.sectors scan.evidence.block = [(number, i)])
      (read : readBareNumber number = .ok (some n, some episode)) : Supplies scan .season n i

/-- The first sector supplies the episode with a number that has no mark, and a later sector gives
    the season. -/
def SeasonBehindNumber (scan : Scan) : Prop :=
  scan.evidence.episodes = [] ∧ leadingNumber? scan.sectors ≠ none ∧
    ∃ season i, i ≠ 0 ∧ Gives scan.sectors .season season i

theorem gives_lt {sectors : List Text} {word : PairWord} {n i : Nat}
    (gives : Gives sectors word n i) : i < sectors.length := by
  cases gives with
  | mark here _ => exact (List.getElem?_eq_some_iff.1 here).1
  | word pair =>
    obtain ⟨_, _, here, _⟩ := pair
    exact (List.getElem?_eq_some_iff.1 here).1
  | number pair =>
    obtain ⟨_, _, _, _, after, _⟩ := pair
    exact (List.getElem?_eq_some_iff.1 after).1

variable {scan : Scan} {found : Evidence}

theorem Scan.Traced.ended (traced : scan.Traced) (done : scan.rest = []) {word : PairWord}
    {n i : Nat} (gives : Gives scan.sectors word n i) :
    isOutside scan.evidence.block i = false ∧ scan.evidence.Tells word n := by
  apply traced.given word n i _ gives
  have bound := gives_lt gives
  rwa [Scan.sectors, done, List.append_nil] at bound

theorem completed_season {sectors : List Text} {e : Evidence} {n : Nat}
    (completed : e.Completed sectors found) (known : e.season = some n) :
    found.season = some n := by
  cases completed with
  | named named => exact known
  | leading unnamed led => exact known
  | @bare number index episode season unnamed unled only read agrees =>
    cases season with
    | none => exact known
    | some m =>
      obtain rfl := agrees m rfl n known
      rfl
  | unnamed unnamed unled unread => exact known

theorem season_supplied (traced : scan.Traced) (done : scan.rest = [])
    (completed : scan.evidence.Completed scan.sectors found) (n : Nat) :
    found.season = some n ↔ ∃ i, Supplies scan .season n i := by
  constructor
  · intro season
    have given (known : scan.evidence.season = some n) : ∃ i, Supplies scan .season n i :=
      (traced.season n known).imp fun _ => .given
    cases completed with
    | named named => exact given season
    | leading unnamed led => exact given season
    | @bare number index episode told unnamed unled only read agrees =>
      cases told with
      | none => exact given season
      | some m =>
        obtain rfl : m = n := Option.some.inj season
        exact ⟨index, .bareSeason unnamed unled only read⟩
    | unnamed unnamed unled unread => exact given season
  · rintro ⟨i, supplies⟩
    cases supplies with
    | given gives => exact completed_season completed (traced.ended done gives).2
    | bareSeason unnamed unled only read =>
      cases completed with
      | named named => exact absurd unnamed named
      | leading _ led => simp [unled] at led
      | bare _ _ same reads agrees =>
        rw [only, List.cons.injEq, Prod.mk.injEq] at same
        rw [← same.1.1, read] at reads
        cases reads
        rfl
      | unnamed _ _ unread => exact absurd read (unread _ _ _ _ only)

theorem episodes_supplied (traced : scan.Traced)
    (completed : scan.evidence.Completed scan.sectors found) :
    ∀ n ∈ found.episodes, ∃ i, Supplies scan .episode n i := by
  intro n member
  have given (known : n ∈ scan.evidence.episodes) : ∃ i, Supplies scan .episode n i :=
    (traced.episodes n known).imp fun _ => .given
  cases completed with
  | named named => exact given member
  | leading unnamed led =>
    obtain rfl := List.mem_singleton.1 member
    exact ⟨0, .leading unnamed led⟩
  | @bare number index episode season unnamed unled only read agrees =>
    obtain rfl := List.mem_singleton.1 member
    exact ⟨index, .bareEpisode unnamed unled only read⟩
  | unnamed unnamed unled unread => exact given member

theorem covered_iff (traced : scan.Traced) (done : scan.rest = [])
    (completed : scan.evidence.Completed scan.sectors found) :
    (∀ word n i, Supplies scan word n i → isOutside found.block i = false) ↔
      ¬ SeasonBehindNumber scan := by
  have given {word : PairWord} {n i : Nat} (gives : Gives scan.sectors word n i) :=
    traced.ended done gives
  constructor
  · rintro covered ⟨unnamed, led, season, i, behind, gives⟩
    have inside := covered .season season i (.given gives)
    cases completed with
    | named named => exact named unnamed
    | leading _ _ =>
      simp [isOutside] at inside
      exact behind inside
    | bare _ unled => exact led unled
    | unnamed _ unled => exact led unled
  · intro apart word n i supplies
    cases completed with
    | named named =>
      cases supplies with
      | given gives => exact (given gives).1
      | leading unnamed => exact absurd unnamed named
      | bareEpisode unnamed => exact absurd unnamed named
      | bareSeason unnamed => exact absurd unnamed named
    | leading unnamed led =>
      cases supplies with
      | given gives =>
        cases word with
        | season =>
          have first : i = 0 := by
            by_contra behind
            exact apart ⟨unnamed, by simp [led], n, i, behind, gives⟩
          simp [isOutside, first]
        | episode => exact absurd unnamed (given gives).2
      | leading => simp [isOutside]
      | bareEpisode _ unled => simp [unled] at led
      | bareSeason _ unled => simp [unled] at led
    | @bare number index episode season unnamed unled only read agrees =>
      have here {other : Text} {place : Nat}
          (same : bareNumbers scan.sectors scan.evidence.block = [(other, place)]) :
          isOutside (scan.evidence.cover index).block place = false := by
        rw [only, List.cons.injEq, Prod.mk.injEq] at same
        exact Evidence.covered_cover (Or.inr same.1.2.symm)
      cases supplies with
      | given gives => exact Evidence.covered_cover (Or.inl (given gives).1)
      | leading _ led => simp [unled] at led
      | bareEpisode _ _ same => exact here same
      | bareSeason _ _ same => exact here same
    | unnamed unnamed unled unread =>
      cases supplies with
      | given gives => exact (given gives).1
      | leading _ led => simp [unled] at led
      | bareEpisode _ _ only read => exact absurd read (unread _ _ _ _ only)
      | bareSeason _ _ only read => exact absurd read (unread _ _ _ _ only)

theorem nameAndTitle_outside {sectors others : List Text} {block : Option (Nat × Nat)} (year : Int)
    (same : ∀ i, isOutside block i = true → others[i]? = sectors[i]?) :
    nameAndTitle others block year = nameAndTitle sectors block year := by
  have behind {start stop : Nat} (here : block = some (start, stop)) :
      others.drop (stop + 1) = sectors.drop (stop + 1) := by
    apply List.ext_getElem?
    intro i
    rw [List.getElem?_drop, List.getElem?_drop]
    apply same
    simp [isOutside, here]
    omega
  have before {start stop : Nat} (here : block = some (start, stop)) :
      others.take start = sectors.take start := by
    apply List.ext_getElem?
    intro i
    rw [List.getElem?_take, List.getElem?_take]
    split
    · apply same
      simp [isOutside, here]
      omega
    · rfl
  cases block with
  | none =>
    have whole : others = sectors := List.ext_getElem? fun i => same i rfl
    rw [whole]
  | some span =>
    obtain ⟨start, stop⟩ := span
    cases start with
    | zero => simp only [nameAndTitle, behind rfl]
    | succ start => simp only [nameAndTitle, behind rfl, before rfl]

theorem ofEvidence_outside {sectors others : List Text} {e : Evidence} (year : Int)
    (same : ∀ i, isOutside e.block i = true → others[i]? = sectors[i]?) :
    EpisodeParts.ofEvidence others year e = EpisodeParts.ofEvidence sectors year e := by
  simp only [EpisodeParts.ofEvidence, nameAndTitle_outside year same]

theorem extract_ok {sectors : List Text} {year : Int} {input : Text} {parts : EpisodeParts}
    (read : (extract sectors year input).parts = .ok parts) :
    ∃ scan found, (Scan.start sectors).run input = (scan, none) ∧
      scan.evidence.complete input scan.sectors = .ok found ∧
      parts = EpisodeParts.ofEvidence scan.sectors year found := by
  rcases ran : (Scan.start sectors).run input with ⟨scan, failure⟩
  cases failure with
  | some e => simp [extract, ran] at read
  | none =>
    cases completes : scan.evidence.complete input scan.sectors with
    | error e => simp [extract, ran, completes, Except.map] at read
    | ok found =>
      simp only [extract, ran, completes, Except.map, Except.ok.injEq] at read
      exact ⟨scan, found, rfl, completes, read.symm⟩

/-- Season and episodes are what the sectors supply, and the block covers those sectors unless a
    season stands behind a leading number. Whatever the block covers may be exchanged without a
    change to the series name or the title. -/
theorem block_covers_iff {sectors : List Text} {year : Int} {input : Text} {parts : EpisodeParts}
    (read : (extract sectors year input).parts = .ok parts) :
    ∃ scan, (Scan.start sectors).run input = (scan, none) ∧
      (∀ n, parts.season = some n ↔ ∃ i, Supplies scan .season n i) ∧
      (∀ n ∈ parts.episodes, ∃ i, Supplies scan .episode n i) ∧
      ((∀ word n i, Supplies scan word n i → isOutside parts.block i = false) ↔
        ¬ SeasonBehindNumber scan) ∧
      ∀ others : List Text,
        (∀ i, isOutside parts.block i = true → others[i]? = scan.sectors[i]?) →
          EpisodeParts.ofEvidence others year ⟨parts.season, parts.episodes, parts.block⟩ =
            parts := by
  obtain ⟨scan, found, ran, completes, rfl⟩ := extract_ok read
  have traced := Scan.traced_run input sectors
  rw [ran] at traced
  have done := Scan.run_ended ran
  have completed := Evidence.completed completes
  refine ⟨scan, ran, season_supplied traced done completed, episodes_supplied traced completed,
    covered_iff traced done completed, ?_⟩
  intro others same
  exact ofEvidence_outside year same

theorem block_covers_bare_number :
    (extract ["Show".toList, "S02".toList, "07".toList] (-1) []).parts =
        .ok ⟨some 2, [7], some (1, 2), "Show".toList, []⟩ ∧
      ∃ scan, (Scan.start ["Show".toList, "S02".toList, "07".toList]).run [] = (scan, none) ∧
        Supplies scan .season 2 1 ∧ Supplies scan .episode 7 2 ∧
          ∀ word n i, Supplies scan word n i → isOutside (some (1, 2)) i = false := by
  have read : (extract ["Show".toList, "S02".toList, "07".toList] (-1) []).parts =
      .ok ⟨some 2, [7], some (1, 2), "Show".toList, []⟩ := by decide +kernel
  obtain ⟨scan, ran, -, -, covers, -⟩ := block_covers_iff read
  have ends : (Scan.start ["Show".toList, "S02".toList, "07".toList]).run [] =
      (⟨["Show".toList, "S02".toList, "07".toList], [], ⟨some 2, [], some (1, 1)⟩⟩, none) := by
    decide +kernel
  rw [ends] at ran
  cases ran
  have unled : leadingNumber? ["Show".toList, "S02".toList, "07".toList] = none := by decide +kernel
  have marked : 2 ∈ seasonMarks "S02".toList := by decide +kernel
  have only : bareNumbers ["Show".toList, "S02".toList, "07".toList] (some (1, 1)) =
      [("07".toList, 2)] := by decide +kernel
  have number : readBareNumber "07".toList = .ok (none, some 7) := by decide +kernel
  exact ⟨read, _, ends, .given (.mark rfl marked), .bareEpisode rfl unled only number,
    covers.2 fun behind => behind.2.1 unled⟩

/-- The leading number takes the place of the block that covered the season, which then stands in
    the title. -/
theorem season_behind_leading_number :
    (extract ["01".toList, "S02".toList, "Pilot".toList] (-1) "01.S02.Pilot".toList).parts =
        .ok ⟨some 2, [1], some (0, 0), unknownSeries, "S02 Pilot".toList⟩ ∧
      ∃ scan, (Scan.start ["01".toList, "S02".toList, "Pilot".toList]).run
          "01.S02.Pilot".toList = (scan, none) ∧
        Supplies scan .season 2 1 ∧ isOutside (some (0, 0)) 1 = true := by
  have ends : (Scan.start ["01".toList, "S02".toList, "Pilot".toList]).run "01.S02.Pilot".toList =
      (⟨["01".toList, "S02".toList, "Pilot".toList], [], ⟨some 2, [], some (1, 1)⟩⟩, none) := by
    decide +kernel
  have marked : 2 ∈ seasonMarks "S02".toList := by decide +kernel
  exact ⟨by decide +kernel, _, ends, .given (.mark rfl marked), rfl⟩

end MediaNaming
