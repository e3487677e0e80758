import MediaNaming.Naming.Renamer
import MediaNaming.Proofs.Text.Splitting
import Mathlib.Control.Monad.Basic

/-
Where reading an episode name cuts a text at a byte. All cuts but one stand where a character
ends. The bare number is cut two bytes before its end, and this breaks exactly when these two
bytes begin inside a character.
-/
namespace MediaNaming

def endsInsideCharacter (t : Text) : Bool :=
  match t.reverse with
  | [] => false
  | [last] => 2 < last.utf8Size
  | last :: before :: _ => 2 < last.utf8Size || (last.utf8Size == 1 && 1 < before.utf8Size)

theorem last_two_bytes_iff {r : Text} :
    (∃ lead tail : Text, r.reverse = lead ++ tail ∧ tail.byteSize = 2) ↔
      ∃ last more : Text, r = last ++ more ∧ last.byteSize = 2 := by
  constructor
  · rintro ⟨lead, tail, text, two⟩
    refine ⟨tail.reverse, lead.reverse, ?_, by rw [Text.byteSize_reverse, two]⟩
    rw [← List.reverse_append, ← text, List.reverse_reverse]
  · rintro ⟨last, more, rfl, two⟩
    exact ⟨more.reverse, last.reverse, by simp, by rw [Text.byteSize_reverse, two]⟩

theorem first_two_bytes_single {c : Char} :
    (∃ last more : Text, [c] = last ++ more ∧ last.byteSize = 2) ↔ c.utf8Size = 2 := by
  constructor
  · rintro ⟨last, more, text, two⟩
    cases last with
    | nil => simp at two
    | cons d last =>
      obtain ⟨rfl, rest⟩ := List.cons.inj text
      obtain ⟨rfl, rfl⟩ := List.append_eq_nil_iff.1 rest.symm
      simpa using two
  · intro two
    exact ⟨[c], [], rfl, by simpa using two⟩

theorem first_two_bytes_several {c d : Char} {r : Text} :
    (∃ last more : Text, c :: d :: r = last ++ more ∧ last.byteSize = 2) ↔
      c.utf8Size = 2 ∨ (c.utf8Size = 1 ∧ d.utf8Size = 1) := by
  have hc := c.utf8Size_pos
  have hd := d.utf8Size_pos
  constructor
  · rintro ⟨last, more, text, two⟩
    match last with
    | [] => simp at two
    | [e] =>
      obtain ⟨rfl, rest⟩ := List.cons.inj text
      exact Or.inl (by simpa using two)
    | e :: f :: last =>
      obtain ⟨rfl, rest⟩ := List.cons.inj text
      obtain ⟨rfl, rest⟩ := List.cons.inj rest
      simp only [Text.byteSize_cons] at two
      omega
  · rintro (two | ⟨first, second⟩)
    · exact ⟨[c], d :: r, rfl, by simpa using two⟩
    · exact ⟨[c, d], r, rfl, by simp [first, second]⟩

theorem ends_in_two_bytes_iff {t : Text} (long : 3 ≤ t.byteSize) :
    (∃ lead tail : Text, t = lead ++ tail ∧ tail.byteSize = 2) ↔
      endsInsideCharacter t = false := by
  obtain ⟨r, rfl⟩ : ∃ r : Text, t = r.reverse := ⟨t.reverse, by simp⟩
  rw [last_two_bytes_iff, endsInsideCharacter, List.reverse_reverse]
  rw [Text.byteSize_reverse] at long
  match r with
  | [] => simp at long
  | [c] =>
    simp only [Text.byteSize_cons, Text.byteSize_nil] at long
    rw [first_two_bytes_single, decide_eq_false_iff_not]
    omega
  | c :: d :: r =>
    have hc := c.utf8Size_pos
    have hd := d.utf8Size_pos
    simp only [first_two_bytes_several, Bool.or_eq_false_iff, decide_eq_false_iff_not,
      Bool.and_eq_false_iff, beq_eq_false_iff_ne, Nat.not_lt]
    omega

theorem three_le_byteSize {t : Text} (inside : endsInsideCharacter t = true) : 3 ≤ t.byteSize := by
  rw [← Text.byteSize_reverse]
  simp only [endsInsideCharacter] at inside
  split at inside
  · contradiction
  · rename_i c eq
    simp at inside
    simp [eq]
    omega
  · rename_i c d r eq
    have hc := c.utf8Size_pos
    simp at inside
    simp [eq]
    omega

theorem readBareNumber_error_iff {number : Text} {e : NamingError} :
    readBareNumber number = .error e ↔
      endsInsideCharacter number = true ∧ e = .brokenCut number 0 (number.byteSize - 2) := by
  by_cases short : number.byteSize < 3
  · have ends : endsInsideCharacter number = false := by
      by_contra inside
      have := three_le_byteSize (by simpa using inside)
      omega
    simp [readBareNumber, short, ends]
  · simp only [readBareNumber, short, if_false]
    cases taken : number.takeBytes? (number.byteSize - 2) with
    | some lead =>
      obtain ⟨⟨tail, text⟩, size⟩ := Text.takeBytes?_some taken
      have total := congrArg Text.byteSize text
      rw [Text.byteSize_append] at total
      have dropped := Text.dropBytes?_append lead tail
      rw [← text, size] at dropped
      have ends := (ends_in_two_bytes_iff (t := number) (by omega)).1 ⟨lead, tail, text, by omega⟩
      simp [dropped, ends]
    | none =>
      have ends : endsInsideCharacter number = true := by
        by_contra whole
        obtain ⟨lead, tail, text, two⟩ :=
          (ends_in_two_bytes_iff (t := number) (by omega)).2 (by simpa using whole)
        have total := congrArg Text.byteSize text
        rw [Text.byteSize_append] at total
        have found := Text.takeBytes?_append lead tail
        rw [← text, show lead.byteSize = number.byteSize - 2 by omega, taken] at found
        simp at found
      simp [ends, eq_comm]

/-- A scan fails only on marks that contradict each other. -/
def NamingError.FromScan (input : Text) (e : NamingError) : Prop :=
  (∃ first second, e = .conflictingSeasons first second input) ∨
    ∃ sector, e = .ambiguousSector sector

theorem assertSeason_error {input : Text} {season : Nat} {e : Evidence} {failure : NamingError}
    (failed : e.assertSeason input season = .error failure) : failure.FromScan input := by
  simp only [Evidence.assertSeason] at failed
  split at failed
  · split at failed
    · simp at failed
    · cases failed
      exact Or.inl ⟨_, _, rfl⟩
  · simp at failed

namespace Scan

theorem step_error {input : Text} {s : Scan} {failure : NamingError}
    (failed : s.step input = .error failure) : failure.FromScan input := by
  simp only [step] at failed
  split at failed
  · simp at failed
  · split at failed
    · simp only [bind, Except.bind] at failed
      split at failed
      · cases failed
        exact assertSeason_error ‹_›
      · simp at failed
    · simp at failed
    · split at failed
      · simp at failed
      · split at failed
        · rename_i word _ _ _ _
          cases word with
          | season =>
            simp only [passPair, bind, Except.bind] at failed
            split at failed
            · cases failed
              exact assertSeason_error ‹_›
            · simp at failed
          | episode => simp [passPair, bind, Except.bind] at failed
        · simp at failed
      · cases failed
        exact Or.inr ⟨_, rfl⟩
    · cases failed
      exact Or.inr ⟨_, rfl⟩

theorem run_error {input : Text} {s scan : Scan} {failure : NamingError}
    (failed : s.run input = (scan, some failure)) : failure.FromScan input := by
  fun_induction run input s with
  | case1 s done => simp at failed
  | case2 s more after stepped ih => exact ih failed
  | case3 s more e stepped =>
    obtain ⟨_, rfl⟩ : s = scan ∧ e = failure := by simpa using failed
    exact step_error stepped

end Scan

theorem NamingError.FromScan.not_brokenCut {input text : Text} {start stop : Nat} :
    ¬ (NamingError.brokenCut text start stop).FromScan input := by
  simp [FromScan]

namespace Evidence

theorem addBareNumber_failure {input : Text} {sectors : List Text} {e : Evidence}
    {failure : NamingError} (failed : e.addBareNumber input sectors = .error failure) :
    failure.FromScan input ∨ ∃ number index, bareNumbers sectors e.block = [(number, index)] ∧
      readBareNumber number = .error failure := by
  simp only [addBareNumber] at failed
  split at failed
  · rename_i number index only
    cases read : readBareNumber number with
    | error other =>
      simp only [read, bind, Except.bind, Except.error.injEq] at failed
      exact Or.inr ⟨number, index, only, failed ▸ read⟩
    | ok found =>
      simp only [read, bind, Except.bind] at failed
      split at failed
      · simp at failed
      · simp at failed
      · split at failed
        · cases failed
          exact Or.inl (assertSeason_error ‹_›)
        · simp at failed
  · simp at failed

theorem addBareNumber_brokenCut_iff {input text : Text} {start stop : Nat} {sectors : List Text}
    {e : Evidence} :
    e.addBareNumber input sectors = .error (.brokenCut text start stop) ↔
      ∃ index, bareNumbers sectors e.block = [(text, index)] ∧ endsInsideCharacter text = true ∧
        start = 0 ∧ stop = text.byteSize - 2 := by
  constructor
  · intro failed
    rcases addBareNumber_failure failed with scanned | ⟨number, index, only, broken⟩
    · exact absurd scanned NamingError.FromScan.not_brokenCut
    · obtain ⟨inside, same⟩ := readBareNumber_error_iff.1 broken
      cases same
      exact ⟨index, only, inside, rfl, rfl⟩
  · rintro ⟨index, only, inside, rfl, rfl⟩
    simp only [addBareNumber, only, readBareNumber_error_iff.2 ⟨inside, rfl⟩]
    rfl

theorem complete_brokenCut_iff {input text : Text} {start stop : Nat} {sectors : List Text}
    {e : Evidence} :
    e.complete input sectors = .error (.brokenCut text start stop) ↔
      e.episodes = [] ∧ leadingNumber? sectors = none ∧
        ∃ index, bareNumbers sectors e.block = [(text, index)] ∧ endsInsideCharacter text = true ∧
          start = 0 ∧ stop = text.byteSize - 2 := by
  by_cases found : e.episodes = []
  · simp only [complete, found, ne_eq, not_true, if_false, true_and]
    cases leading : leadingNumber? sectors with
    | some episode => simp [addLeadingNumber, leading, addEpisodes]
    | none =>
      simp only [addLeadingNumber, leading, found, not_true, if_false, true_and]
      exact addBareNumber_brokenCut_iff
  · simp [complete, found]

end Evidence

def SplitName.CutsWhole (input : Text) (split : SplitName) : Prop :=
  ∃ file : Text,
    (input = file ∨ (input.takeBytes? split.location.byteSize = some split.location ∧
      input.dropBytes? (split.location.byteSize + 1) = some file)) ∧
    file.takeBytes? split.name.byteSize = some split.name ∧
    file.dropBytes? (split.name.byteSize + 1) = some split.extension

theorem splitLast?_cuts {c : Char} {t before after : Text} (single : c.utf8Size = 1)
    (found : t.splitLast? c = some (before, after)) :
    t.takeBytes? before.byteSize = some before ∧
      t.dropBytes? (before.byteSize + 1) = some after := by
  obtain ⟨rfl, _⟩ := Text.splitLast?_some found
  refine ⟨Text.takeBytes?_append _ _, ?_⟩
  have cut := Text.dropBytes?_append (before ++ [c]) after
  simpa [single] using cut

theorem ofPath?_cutsWhole {input : Text} {split : SplitName}
    (found : SplitName.ofPath? input = .ok split) : split.CutsWhole input := by
  simp only [SplitName.ofPath?] at found
  split at found
  · rename_i name extension dotted
    cases found
    refine ⟨((input.splitLast? pathSeparator).getD ([], input)).2, ?_, splitLast?_cuts rfl dotted⟩
    cases parts : input.splitLast? pathSeparator with
    | none => exact Or.inl rfl
    | some p => exact Or.inr (splitLast?_cuts rfl parts)
  · simp at found

theorem crossMark_cutsWhole {sector : Text} {m : CrossMark} (found : m ∈ CrossMark.all [] sector) :
    sector.slice? m.lead.byteSize (m.lead.byteSize + m.written.byteSize) = some m.written ∧
      sector.dropBytes? (m.lead.byteSize + m.written.byteSize) = some m.rest := by
  have text := (CrossMark.mem_all found).1
  rw [List.nil_append] at text
  rw [← text]
  constructor
  · simp only [Text.slice?, Nat.le_add_right, if_true, List.append_assoc, Text.dropBytes?_append,
      Option.bind_some, Nat.add_sub_cancel_left, Text.takeBytes?_append]
  · rw [← Text.byteSize_append]
    exact Text.dropBytes?_append _ _

/-- The bare number that a name without other episodes is read from ends inside a character. -/
def EndsInBrokenNumber (input number : Text) : Prop :=
  ∃ media scan index,
    MediaFile.ofName? Lexicon.episodes.classify input = .ok media ∧
      (Scan.start media.sectors).run input = (scan, none) ∧ scan.evidence.episodes = [] ∧
      leadingNumber? scan.sectors = none ∧
      bareNumbers scan.sectors scan.evidence.block = [(number, index)] ∧
      endsInsideCharacter number = true

theorem ofName?_error {classifier : Classifier} {input : Text} {e : NamingError}
    (failed : MediaFile.ofName? classifier input = .error e) : e = .noExtension input := by
  simp only [MediaFile.ofName?, bind, Except.bind] at failed
  split at failed
  · rename_i failure cut
    simp only [SplitName.ofPath?] at cut
    split at cut
    · simp at cut
    · cases failed
      cases cut
      rfl
  · simp [pure, Except.pure] at failed

theorem extract_brokenCut_iff {sectors : List Text} {year : Int} {input text : Text}
    {start stop : Nat} :
    (extract sectors year input).parts = .error (.brokenCut text start stop) ↔
      ∃ scan, (Scan.start sectors).run input = (scan, none) ∧
        scan.evidence.complete input scan.sectors = .error (.brokenCut text start stop) := by
  simp only [extract]
  split
  · rename_i scan e failed
    have contradicts := Scan.run_error failed
    constructor
    · intro same
      cases same
      exact absurd contradicts NamingError.FromScan.not_brokenCut
    · rintro ⟨other, done, _⟩
      rw [failed] at done
      simp at done
  · rename_i scan done
    cases complete : scan.evidence.complete input scan.sectors with
    | error e => simp [done, complete, Except.map]
    | ok evidence => simp [done, complete, Except.map]

/-- Reading an episode name breaks exactly when its only bare number, where no other episode is
    found, ends inside a character. All other cuts are whole. -/
theorem parseEpisode_brokenCut_iff (input : Text) :
    (∀ number start stop,
      ({} : Renamer).parseEpisode input = .error (.brokenCut number start stop) ↔
      EndsInBrokenNumber input number ∧ start = 0 ∧ stop = number.byteSize - 2) ∧
    (∀ split, SplitName.ofPath? input = .ok split → split.CutsWhole input) ∧
    (∀ sector, ∀ m ∈ CrossMark.all [] sector,
      sector.slice? m.lead.byteSize (m.lead.byteSize + m.written.byteSize) = some m.written ∧
        sector.dropBytes? (m.lead.byteSize + m.written.byteSize) = some m.rest) := by
  refine ⟨?_, fun split => ofPath?_cutsWhole, fun sector m => crossMark_cutsWhole⟩
  intro number start stop
  cases read : MediaFile.ofName? Lexicon.episodes.classify input with
  | error e =>
    obtain rfl := ofName?_error read
    simp [Renamer.parseEpisode, Episode.ofName?, EndsInBrokenNumber, read, bind, Except.bind]
  | ok media =>
    have parts : ({} : Renamer).parseEpisode input = .error (.brokenCut number start stop) ↔
        (extract media.sectors media.year input).parts = .error (.brokenCut number start stop) := by
      simp only [Renamer.parseEpisode, Episode.ofName?, read, bind, Except.bind]
      cases (extract media.sectors media.year input).parts <;> simp [pure, Except.pure]
    rw [parts, extract_brokenCut_iff]
    constructor
    · rintro ⟨scan, done, broken⟩
      obtain ⟨missing, unled, index, only, inside, first, last⟩ :=
        Evidence.complete_brokenCut_iff.1 broken
      exact ⟨⟨media, scan, index, read, done, missing, unled, only, inside⟩, first, last⟩
    · rintro ⟨⟨other, scan, index, same, done, missing, unled, only, inside⟩, first, last⟩
      rw [read] at same
      cases same
      exact ⟨scan, done,
        Evidence.complete_brokenCut_iff.2 ⟨missing, unled, index, only, inside, first, last⟩⟩

theorem parseEpisode_breaks_two_byte_digit :
    ({} : Renamer).parseEpisode "1٣2.mkv".toList = .error (.brokenCut "1٣2".toList 0 2) := by
  decide +kernel

end MediaNaming
