import MediaNaming.Proofs.Episode.Steps
import MediaNaming.Proofs.Naming.Outcome

/-
Well-formed evidence. Whatever adds a season or an episode covers the sector it comes from, so
there is a block exactly when something was found. The block is a span of sectors that are passed
already, the number after a pair word among them.
-/
namespace MediaNaming

namespace Evidence

structure Within (count : Nat) (e : Evidence) : Prop where
  span : ∀ start stop, e.block = some (start, stop) → start ≤ stop ∧ stop < count
  season : ∀ n ∈ e.season, n < 100

def Found (e : Evidence) : Prop := e.season.isSome ∨ e.episodes ≠ []

/-- The block is a span of the first sectors, and there is one exactly when something was found. -/
structure WellFormed (count : Nat) (e : Evidence) : Prop extends e.Within count where
  present : e.block.isSome ↔ e.Found

variable {count more index : Nat} {e after : Evidence}

theorem within_empty : Within 0 {} := ⟨by simp, by simp⟩

theorem Within.mono (within : e.Within count) (grows : count ≤ more) : e.Within more where
  span start stop here := by
    have inside := within.span start stop here
    omega
  season := within.season

theorem Within.cover (within : e.Within count) (inside : index < count) :
    (e.cover index).Within count where
  span start stop here := by
    simp only [Evidence.cover, Option.some.injEq] at here
    cases block : e.block with
    | none =>
      simp only [block, Prod.mk.injEq] at here
      omega
    | some span =>
      obtain ⟨first, last⟩ := span
      have before := within.span first last block
      simp only [block, Prod.mk.injEq] at here
      omega
  season := within.season

theorem Within.addEpisodes (within : e.Within count) (episodes : List Nat) :
    (e.addEpisodes episodes).Within count := ⟨within.span, within.season⟩

theorem Within.assertSeason {input : Text} {season : Nat} (within : e.Within count)
    (small : season < 100) (asserted : e.assertSeason input season = .ok after) :
    after.Within count := by
  obtain ⟨rfl, -⟩ := assertSeason_ok asserted
  exact ⟨within.span, by simpa using small⟩

theorem WellFormed.of_cover (within : e.Within count) (inside : index < count) (found : e.Found) :
    (e.cover index).WellFormed count where
  toWithin := within.cover inside
  present := ⟨fun _ => found, fun _ => rfl⟩

theorem WellFormed.mono (formed : e.WellFormed count) (grows : count ≤ more) :
    e.WellFormed more := ⟨formed.toWithin.mono grows, formed.present⟩

end Evidence

theorem seasonMarks_lt {sector : Text} : ∀ n ∈ seasonMarks sector, n < 100 := by
  intro n member
  obtain ⟨s, here⟩ := mem_readWords member
  cases s with
  | nil => simp [seasonAt] at here
  | cons c rest =>
    simp only [seasonAt] at here
    split at here
    · exact shortNumber?_lt (Option.mem_toList.1 here)
    · simp at here

namespace Scan

open Evidence

variable {input : Text} {s after : Scan}

theorem wellFormed_passPair {sector next : Text} {word : PairWord} {number : Nat} {rest : List Text}
    (formed : s.evidence.WellFormed s.done.length) (small : number < 100)
    (passes : s.passPair input word number sector next rest = .ok after) :
    after.evidence.WellFormed after.done.length := by
  obtain ⟨evidence, rfl, told⟩ := passPair_ok passes
  have passed : s.evidence.Within (s.done ++ [sector, next]).length :=
    formed.toWithin.mono (by simp)
  have told : evidence.Within (s.done ++ [sector, next]).length ∧ evidence.Found := by
    cases word with
    | season =>
      refine ⟨passed.assertSeason small told, ?_⟩
      obtain ⟨rfl, -⟩ := assertSeason_ok told
      exact Or.inl rfl
    | episode =>
      subst told
      exact ⟨⟨passed.span, passed.season⟩, Or.inr (by simp)⟩
  obtain ⟨within, found⟩ := told
  refine .of_cover (within.cover ?_) ?_ found <;> simp

theorem wellFormed_stepped (formed : s.evidence.WellFormed s.done.length)
    (stepped : Stepped input s after) : after.evidence.WellFormed after.done.length := by
  have passed (sector : Text) : s.evidence.Within (s.done ++ [sector]).length :=
    formed.toWithin.mono (by simp)
  have under (sector : Text) : s.done.length < (s.done ++ [sector]).length := by simp
  cases stepped with
  | @season sector rest season evidence head seasons asserted =>
    have among : season ∈ seasonMarks sector := by simp [seasons]
    have small := seasonMarks_lt season among
    refine .of_cover (((passed sector).assertSeason small asserted).addEpisodes _) (under sector) ?_
    obtain ⟨rfl, -⟩ := assertSeason_ok asserted
    exact Or.inl rfl
  | @episodes sector rest head seasons named =>
    exact .of_cover ((passed sector).addEpisodes _) (under sector)
      (Or.inr (by simp [addEpisodes, named]))
  | respell head seasons unnamed only => exact formed
  | pair head pairs short passes => exact wellFormed_passPair formed (shortNumber?_lt short) passes
  | quiet head seasons unnamed uncrossed alone => exact formed.mono (by simp [pass])

theorem wellFormed_run (input : Text) (sectors : List Text) :
    let scan := ((start sectors).run input).1
    scan.evidence.WellFormed scan.done.length :=
  run_keeps (P := fun s => s.evidence.WellFormed s.done.length)
    (fun _ _ formed stepped => wellFormed_stepped formed stepped)
    ⟨within_empty, by simp [Found, start]⟩

end Scan

namespace Evidence

/-- A bare number has at most one digit before the two of its episode. -/
theorem readBareNumber_season_lt {number : Text} {season episode : Option Nat}
    (short : number.length ≤ 3) (read : readBareNumber number = .ok (season, episode)) :
    ∀ n ∈ season, n < 100 := by
  intro n here
  simp only [readBareNumber] at read
  split at read
  · cases read
    simp at here
  · rename_i long
    split at read
    · rename_i lead tail taken dropped
      cases read
      obtain ⟨⟨behind, text⟩, size⟩ := Text.takeBytes?_some taken
      -- two bytes are left behind the season, and they hold a character
      have left : behind ≠ [] := by
        rintro rfl
        rw [text, List.append_nil] at size long
        omega
      have some_left := List.length_pos_of_ne_nil left
      rw [text, List.length_append] at short
      have few : lead.length ≤ 2 := by omega
      exact readNumber?_lt_pow few here
    · simp at read

theorem mem_bareNumbers {sectors : List Text} {block : Option (Nat × Nat)} {number : Text}
    {index : Nat} (member : (number, index) ∈ bareNumbers sectors block) :
    index < sectors.length ∧ number.length ≤ 3 := by
  obtain ⟨listed, kept⟩ := List.mem_filter.1 member
  have bare : isBareNumber number = true := (Bool.and_eq_true_iff.1 kept).2
  simp only [isBareNumber, Bool.and_eq_true, decide_eq_true_eq] at bare
  exact ⟨by simpa using (List.mem_zipIdx listed).2.1, bare.1.2⟩

theorem WellFormed.completed {sectors : List Text} {e after : Evidence}
    (formed : e.WellFormed sectors.length) (completed : e.Completed sectors after) :
    after.WellFormed sectors.length := by
  cases completed with
  | named named => exact formed
  | leading unnamed led =>
    refine ⟨⟨?_, formed.season⟩, by simp [Found]⟩
    intro start stop here
    cases here
    cases sectors with
    | nil => simp [leadingNumber?] at led
    | cons sector rest => simp
  | @bare number index episode season unnamed unled only read agrees =>
    obtain ⟨inside, short⟩ := mem_bareNumbers (only ▸ List.mem_singleton_self (number, index))
    have covered := formed.toWithin.cover inside
    refine ⟨⟨covered.span, ?_⟩, by simp [Found, Evidence.cover]⟩
    cases season with
    | none => exact formed.season
    | some n => exact readBareNumber_season_lt short read
  | unnamed unnamed unled unread => exact formed

end Evidence

theorem parsed_evidence_wellFormed {input : Text} {e : Episode}
    (read : ({} : Renamer).parseEpisode input = .ok e) :
    (e.block.isSome ↔ e.seasonInName.isSome ∨ e.episodes ≠ []) ∧
      (∀ start stop, e.block = some (start, stop) →
        start ≤ stop ∧ stop < e.media.sectors.length) ∧
      (∀ n ∈ e.episodes, n ≤ 99) ∧ (∀ n ∈ e.seasonInName, n ≤ 99) ∧
      (e.media.year = -1 ∨ (1900 ≤ e.media.year ∧ e.media.year ≤ 2099)) := by
  have sound := sound_of_read read
  obtain ⟨split, scan, evidence, refined, cut, refines, ran, completes, rfl⟩ :=
    Episode.ofName?_ok read
  have formed := Scan.wellFormed_run input refined.sectors
  simp only [ran] at formed
  have passed : scan.sectors = scan.done := by simp [Scan.sectors, Scan.run_ended ran]
  rw [← passed] at formed
  have whole := formed.completed (Evidence.completed completes)
  exact ⟨whole.present, whole.span, fun n member => Nat.le_of_lt_succ (sound.bounded n member),
    fun n told => Nat.le_of_lt_succ (whole.season n told), sound.year⟩

theorem parsed_evidence_wellFormed_bare_number : ∃ e,
    ({} : Renamer).parseEpisode "Show.2010.S02.Pilot.207.mkv".toList = .ok e ∧
      (e.block, e.seasonInName, e.episodes, e.media.year, e.media.sectors.length) =
        (some (2, 4), some 2, [7], 2010, 5) ∧
      (∀ start stop, e.block = some (start, stop) →
        start ≤ stop ∧ stop < e.media.sectors.length) ∧ ∀ n ∈ e.seasonInName, n ≤ 99 := by
  have evaluated :
      ∃ e ∈ (({} : Renamer).parseEpisode "Show.2010.S02.Pilot.207.mkv".toList).toOption,
        (e.block, e.seasonInName, e.episodes, e.media.year, e.media.sectors.length) =
          (some (2, 4), some 2, [7], 2010, 5) := by
    decide +kernel
  obtain ⟨e, told, values⟩ := evaluated
  have read := mem_toOption.1 told
  obtain ⟨-, span, -, season, -⟩ := parsed_evidence_wellFormed read
  exact ⟨e, read, values, span, season⟩

end MediaNaming
