import MediaNaming.Proofs.Episode.Cuts
import MediaNaming.Proofs.Episode.Scanning

/-
The name that an error tells. Reading looks at it nowhere else, so the same sectors are read to the
same parts for every name, or fail with the same error but for the name in it.
-/
namespace MediaNaming

/-- The error, told of this name. -/
def NamingError.about (input : Text) : NamingError → NamingError
  | noExtension _ => noExtension input
  | conflictingSeasons first second _ => conflictingSeasons first second input
  | e => e

variable (input other : Text)

theorem readBareNumber_about (number : Text) :
    (readBareNumber number).mapError (.about other) = readBareNumber number := by
  cases read : readBareNumber number with
  | ok found => rfl
  | error e =>
    obtain ⟨-, rfl⟩ := readBareNumber_error_iff.1 read
    rfl

namespace Evidence

theorem assertSeason_about (season : Nat) (e : Evidence) :
    (e.assertSeason input season).mapError (.about other) = e.assertSeason other season := by
  simp only [assertSeason]
  split
  · split <;> rfl
  · rfl

theorem assertSeason_bind_about {α : Type} (season : Nat) (e : Evidence)
    {next : Evidence → Except NamingError α}
    (untold : ∀ e, (next e).mapError (.about other) = next e) :
    (e.assertSeason input season >>= next).mapError (.about other) =
      e.assertSeason other season >>= next := by
  rw [← assertSeason_about input other]
  cases e.assertSeason input season with
  | error e => rfl
  | ok e => exact untold e

theorem addBareNumber_about (sectors : List Text) (e : Evidence) :
    (e.addBareNumber input sectors).mapError (.about other) = e.addBareNumber other sectors := by
  simp only [addBareNumber]
  split
  · rename_i number index only
    have told := readBareNumber_about other number
    cases read : readBareNumber number with
    | error e =>
      rw [read] at told
      exact congrArg _ (Except.error.inj told)
    | ok found =>
      obtain ⟨_ | season, _ | episode⟩ := found
      · rfl
      · rfl
      · rfl
      · exact assertSeason_bind_about input other season e fun _ => rfl
  · rfl

theorem complete_about (sectors : List Text) (e : Evidence) :
    (e.complete input sectors).mapError (.about other) = e.complete other sectors := by
  simp only [complete]
  split
  · rfl
  · split
    · rfl
    · exact addBareNumber_about input other sectors _

end Evidence

namespace Scan

theorem passPair_about (word : PairWord) (number : Nat) (sector next : Text) (rest : List Text)
    (s : Scan) : (s.passPair input word number sector next rest).mapError (.about other) =
      s.passPair other word number sector next rest := by
  cases word with
  | episode => rfl
  | season => exact Evidence.assertSeason_bind_about input other number s.evidence fun _ => rfl

theorem step_about (s : Scan) : (s.step input).mapError (.about other) = s.step other := by
  simp only [step]
  split
  · rfl
  · split
    · exact Evidence.assertSeason_bind_about input other _ s.evidence fun _ => rfl
    · rfl
    · split
      · rfl
      · split
        · exact passPair_about ..
        · rfl
      · rfl
    · rfl

theorem run_about (s : Scan) :
    s.run other = ((s.run input).1, (s.run input).2.map (.about other)) := by
  fun_induction run input s with
  | case1 s done => rw [run, if_pos done]; rfl
  | case2 s more after stepped ih =>
    have step := step_about input other s
    rw [stepped] at step
    rw [run_step more step.symm, ih]
  | case3 s more e failed =>
    have step := step_about input other s
    rw [failed] at step
    exact run_failed more step.symm

end Scan

theorem extract_about (sectors : List Text) (year : Int) :
    extract sectors year other =
      ⟨(extract sectors year input).parts.mapError (.about other),
        (extract sectors year input).sectors⟩ := by
  rw [extract, Scan.run_about input other, extract]
  rcases (Scan.start sectors).run input with ⟨scan, _ | e⟩
  · simp only [Option.map_none, ← Evidence.complete_about input other]
    cases scan.evidence.complete input scan.sectors <;> rfl
  · rfl

end MediaNaming
