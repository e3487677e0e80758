import MediaNaming.Episode.Parts
import MediaNaming.Proofs.Episode.Scanning
import MediaNaming.Proofs.Episode.Steps

/-
Respelling while the scan goes on. A sector with a cross mark is no word and no number of a pair,
before and after it is respelled, so nothing that was looked at earlier changes its meaning. A
second extraction takes the steps of the first one without the respelling and ends alike.
-/
namespace MediaNaming

theorem shortNumber?_some {t : Text} {n : Nat} (short : shortNumber? t = some n) :
    t ≠ [] ∧ (∀ c ∈ t, isDecimal c = true) ∧ t.byteSize ≤ 2 := by
  have nonempty : t ≠ [] := by
    rintro rfl
    rw [shortNumber?_nil] at short
    contradiction
  simp only [shortNumber?] at short
  split at short
  · rename_i here
    exact ⟨nonempty, List.all_eq_true.1 here.1, here.2⟩
  · simp at short

theorem undigit_of_word {t : Text} {word : PairWord} (pairs : PairWord.ofSector? t = some word) :
    ∀ c ∈ t, isDecimal c = false := by
  intro c member
  by_contra digit
  rw [ofSector?_of_decimal ⟨c, member, by simpa using digit⟩] at pairs
  contradiction

theorem quiet_of_word {t : Text} {word : PairWord} (pairs : PairWord.ofSector? t = some word) :
    Quiet t := quiet_of_no_digit (undigit_of_word pairs)

namespace CrossMark

structure Runs (m : CrossMark) : Prop where
  season : m.season ≠ [] ∧ ∀ c ∈ m.season, isDecimal c = true
  cross : isCross m.cross = true
  first : m.first ≠ [] ∧ ∀ c ∈ m.first, isDecimal c = true
  last : ∀ t ∈ m.last, t ≠ [] ∧ ∀ c ∈ t, isDecimal c = true
  ends : ∀ c ∈ m.rest.head?, isDecimal c = false

theorem leadingDigits_decimal (t : Text) : ∀ c ∈ leadingDigits t, isDecimal c = true :=
  fun _ member => List.mem_takeWhile_imp member

theorem afterDigits_head (t : Text) : ∀ c ∈ (afterDigits t).head?, isDecimal c = false := by
  intro c head
  have := List.head?_dropWhile_not isDecimal t
  rw [afterDigits] at head
  rw [Option.mem_def] at head
  simpa [head] using this

theorem runs_ofHead? {lead t : Text} {m : CrossMark} (found : ofHead? lead t = some m) :
    m.Runs := by
  simp only [ofHead?] at found
  split at found
  · simp at found
  · rename_i x rest after
    split at found
    · rename_i here
      obtain ⟨season, cross, first⟩ := here
      split at found
      · rename_i digits ranged
        have run : digits ≠ [] ∧ ∀ c ∈ digits, isDecimal c = true := by
          unfold rangeEnd? at ranged
          split at ranged
          · split at ranged
            · simp at ranged
            · rename_i nonempty
              cases ranged
              exact ⟨nonempty, leadingDigits_decimal _⟩
          · simp at ranged
        cases found
        exact ⟨⟨season, leadingDigits_decimal t⟩, cross, ⟨first, leadingDigits_decimal rest⟩,
          by simpa using run, afterDigits_head _⟩
      · cases found
        exact ⟨⟨season, leadingDigits_decimal t⟩, cross, ⟨first, leadingDigits_decimal rest⟩,
          by simp, afterDigits_head _⟩
    · simp at found

theorem runs_all {lead t : Text} {m : CrossMark} (found : m ∈ all lead t) : m.Runs := by
  fun_induction all lead t with
  | case1 => simp at found
  | case2 lead c rest mark here ih =>
    rcases List.mem_cons.1 found with rfl | later
    · exact runs_ofHead? here
    · exact ih later
  | case3 lead c rest none ih => exact ih found

end CrossMark

theorem isDecimal_of_cross {x : Char} (cross : isCross x = true) : isDecimal x = false := by
  rcases isCross_iff.1 cross with rfl | rfl <;> decide

structure Apart (sector : Text) : Prop where
  word : PairWord.ofSector? sector = none
  number : shortNumber? sector = none

theorem apart_of_mixed {t : Text} (digit : ∃ c ∈ t, isDecimal c = true)
    (other : ∃ c ∈ t, isDecimal c = false) : Apart t :=
  ⟨ofSector?_of_decimal digit, shortNumber?_of_undecimal other⟩

theorem apart_crossMark {sector : Text} {m : CrossMark} (member : m ∈ crossMarks sector) :
    Apart sector ∧ Apart m.respelled := by
  have found := (List.mem_filter.1 member).1
  have runs := CrossMark.runs_all found
  have text := (CrossMark.mem_all found).1
  rw [List.nil_append] at text
  obtain ⟨d, digits, season⟩ := List.exists_cons_of_ne_nil runs.season.1
  have decimal : isDecimal d = true := runs.season.2 d (by simp [season])
  have cross := isDecimal_of_cross runs.cross
  constructor
  · apply apart_of_mixed
    · exact ⟨d, by simp [← text, CrossMark.written, season], decimal⟩
    · exact ⟨m.cross, by simp [← text, CrossMark.written], cross⟩
  · apply apart_of_mixed
    · exact ⟨d, by simp [CrossMark.respelled, season], decimal⟩
    · exact ⟨'S', by simp [CrossMark.respelled], by decide⟩

namespace Scan

def numberAhead (rest : List Text) : Option Nat := rest.head?.bind shortNumber?

theorem pair?_eq_none {sector : Text} {rest : List Text} : pair? sector rest = none ↔
    PairWord.ofSector? sector = none ∨ numberAhead rest = none := by
  cases rest with
  | nil => simp [pair?, numberAhead]
  | cons next later =>
    simp only [pair?, numberAhead, List.head?_cons, Option.bind_some]
    cases PairWord.ofSector? sector <;> cases shortNumber? next <;> simp

/-- A step either respells the sector under it or passes a front of the sectors, and what it
    passes is passed alike whatever comes after it, up to a number that makes a pair. -/
theorem step_alike {input : Text} {s after : Scan} (stepped : Stepped input s after) :
    (after.done = s.done ∧ after.evidence = s.evidence ∧
      numberAhead after.rest = numberAhead s.rest) ∨
    ∃ sector passed, s.rest = sector :: passed ++ after.rest ∧
      after.done = s.done ++ sector :: passed ∧
      ∀ rest, numberAhead rest = numberAhead after.rest →
        Scan.step input ⟨s.done, sector :: passed ++ rest, s.evidence⟩ =
          .ok ⟨after.done, rest, after.evidence⟩ := by
  cases stepped with
  | @season sector later season evidence head seasons asserted =>
    refine Or.inr ⟨sector, [], head, rfl, fun rest _ => ?_⟩
    simp [step, seasons, asserted, bind, Except.bind, pass]
  | @episodes sector later head seasons named =>
    refine Or.inr ⟨sector, [], head, rfl, fun rest _ => ?_⟩
    obtain ⟨first, more, names⟩ := List.exists_cons_of_ne_nil named
    simp [step, seasons, names, pass]
  | @respell sector later mark head seasons unnamed only =>
    have apart := apart_crossMark (show mark ∈ crossMarks sector by simp [only])
    refine Or.inl ⟨rfl, rfl, ?_⟩
    simp [numberAhead, head, apart.1.number, apart.2.number]
  | @pair sector next later word number after head pairs short passes =>
    obtain ⟨evidence, rfl, told⟩ := passPair_ok passes
    refine Or.inr ⟨sector, [next], head, rfl, fun rest _ => ?_⟩
    have quiet := quiet_of_word pairs
    have paired : pair? sector (next :: rest) = some (word, number, next, rest) := by
      simp [pair?, pairs, short]
    cases word <;> simp [step, quiet.seasons, quiet.episodes, quiet.crosses, paired, passPair, told,
      bind, Except.bind]
  | @quiet sector later head seasons unnamed uncrossed alone =>
    refine Or.inr ⟨sector, [], head, rfl, fun rest ahead => ?_⟩
    have apart : pair? sector rest = none := by
      rw [pair?_eq_none, ahead]
      exact pair?_eq_none.1 alone
    simp [step, seasons, unnamed, uncrossed, apart, pass]

theorem run_again (input : Text) (s : Scan) : ∃ rest,
    (s.run input).1.sectors = s.done ++ rest ∧ numberAhead rest = numberAhead s.rest ∧
      run input ⟨s.done, rest, s.evidence⟩ = s.run input := by
  fun_induction run input s with
  | case1 s done =>
    refine ⟨[], ?_, by rw [done], ?_⟩
    · rw [sectors, done]
    · rw [← done, run, if_pos done]
  | case3 s more e failed => exact ⟨s.rest, rfl, rfl, run_failed more failed⟩
  | case2 s more after step ih =>
    obtain ⟨rest, ends, ahead, again⟩ := ih
    rcases step_alike (stepped more step) with
      ⟨same_done, same_evidence, same_ahead⟩ | ⟨sector, passed, head, passes, alike⟩
    · rw [same_done, same_evidence] at again
      exact ⟨rest, by rw [ends, same_done], by rw [ahead, same_ahead], again⟩
    · refine ⟨sector :: passed ++ rest, ?_, by rw [head]; rfl, ?_⟩
      · rw [ends, passes, List.append_assoc]
      · rw [run_step (by simp) (alike rest ahead), again]

end Scan

theorem extract_sectors (sectors : List Text) (year : Int) (input : Text) :
    (extract sectors year input).sectors = ((Scan.start sectors).run input).1.sectors := by
  simp only [extract]
  split <;> rename_i ran <;> rw [ran]

theorem extract_again (sectors : List Text) (year : Int) (input : Text) :
    extract (extract sectors year input).sectors year input = extract sectors year input := by
  obtain ⟨rest, ends, _, again⟩ := Scan.run_again input (Scan.start sectors)
  have left : (extract sectors year input).sectors = rest := by
    rw [extract_sectors, ends, Scan.start, List.nil_append]
  have same : (Scan.start rest).run input = (Scan.start sectors).run input := again
  rw [left, extract, same, extract]

end MediaNaming
