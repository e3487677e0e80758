import MediaNaming.Proofs.Episode.Respelling

/-
The scan of sectors with more behind them. Sectors that begin with no short number leave what
stands before them to itself: the scan over all of them is the scan over the front, and then one
over the back from where the first one ended. So a cross mark is read as its letters are, whatever
stands around it.
-/
namespace MediaNaming
namespace Scan

variable (input : Text) {more : List Text}

def before (s : Scan) (more : List Text) : Scan := { s with rest := s.rest ++ more }

theorem pair?_append (apart : numberAhead more = none) (sector : Text) (rest : List Text) :
    pair? sector (rest ++ more) =
      (pair? sector rest).map fun p => (p.1, p.2.1, p.2.2.1, p.2.2.2 ++ more) := by
  cases rest with
  | nil => exact pair?_eq_none.2 (Or.inr apart)
  | cons next later =>
    simp only [List.cons_append, pair?]
    cases PairWord.ofSector? sector <;> cases shortNumber? next <;> rfl

theorem passPair_before (word : PairWord) (number : Nat) (sector next : Text) (later : List Text)
    (s : Scan) : (s.before more).passPair input word number sector next (later ++ more) =
      (s.passPair input word number sector next later).map (before · more) := by
  cases word with
  | episode => rfl
  | season =>
    simp only [passPair, before]
    cases s.evidence.assertSeason input number <;> rfl

theorem step_before (apart : numberAhead more = none) {s : Scan} (some : s.rest ≠ []) :
    (s.before more).step input = (s.step input).map (before · more) := by
  obtain ⟨sector, rest, head⟩ := List.exists_cons_of_ne_nil some
  have heads : (s.before more).rest = sector :: (rest ++ more) := by rw [before, head]; rfl
  simp only [step, head, heads, pair?_append apart]
  split
  · -- a season mark, which may contradict an earlier one
    show (s.evidence.assertSeason input _ >>= _) = _
    cases s.evidence.assertSeason input _ <;> rfl
  · rfl
  · split
    · rfl
    · cases pair? sector rest with
      | none => rfl
      | some found => exact passPair_before ..
    · rfl
  · rfl

theorem run_before (apart : numberAhead more = none) (s : Scan) :
    (s.before more).run input =
      match s.run input with
      | (ended, none) => (ended.before more).run input
      | (ended, some e) => (ended.before more, some e) := by
  fun_induction run input s with
  | case1 s done => rfl
  | case2 s some after stepped ih =>
    have step := step_before input apart some
    rw [stepped] at step
    rw [run_step (by simp [before, some]) step, ih]
  | case3 s some e failed =>
    have step := step_before input apart some
    rw [failed] at step
    exact run_failed (by simp [before, some]) step

/-- Two backs that are scanned alike are scanned alike behind every front, unless the front fails
    by itself. -/
theorem run_front {other : List Text} (apart : numberAhead more = none)
    (apartOther : numberAhead other = none)
    (alike : ∀ done evidence, run input ⟨done, more, evidence⟩ = run input ⟨done, other, evidence⟩)
    (front : List Text) :
    (start (front ++ more)).run input = (start (front ++ other)).run input ∨
      ∃ (s : Scan) (e : NamingError),
        (start (front ++ more)).run input = (s.before more, some e) ∧
        (start (front ++ other)).run input = (s.before other, some e) := by
  have ran := run_before input apart (start front)
  have ranOther := run_before input apartOther (start front)
  rcases fronted : (start front).run input with ⟨ended, _ | e⟩ <;> rw [fronted] at ran ranOther
  · have done : ended.rest = [] := run_ended fronted
    refine Or.inl (ran.trans (Eq.trans ?_ ranOther.symm))
    simp only [before, done, List.nil_append, alike]
  · exact Or.inr ⟨ended, e, ran, ranOther⟩

theorem run_respelled {sector : Text} {mark : CrossMark} (seasons : seasonMarks sector = [])
    (unnamed : episodeMarks sector = []) (only : crossMarks sector = [mark])
    (done rest : List Text) (evidence : Evidence) :
    run input ⟨done, sector :: rest, evidence⟩ =
      run input ⟨done, mark.respelled :: rest, evidence⟩ :=
  run_step (by simp) (by simp [step, seasons, unnamed, only])

end Scan

/-- Wherever a sector stands that the scan respells, it is read as what it is respelled to. -/
theorem extract_respelled {sector : Text} {mark : CrossMark} (seasons : seasonMarks sector = [])
    (unnamed : episodeMarks sector = []) (only : crossMarks sector = [mark])
    (before after : List Text) (year : Int) (input : Text) :
    (extract (before ++ sector :: after) year input).parts =
      (extract (before ++ mark.respelled :: after) year input).parts := by
  obtain ⟨apart, apartRespelled⟩ := apart_crossMark (show mark ∈ crossMarks sector by simp [only])
  have ahead : Scan.numberAhead (sector :: after) = none := apart.number
  have aheadRespelled : Scan.numberAhead (mark.respelled :: after) = none := apartRespelled.number
  rcases Scan.run_front input ahead aheadRespelled
    (fun done => Scan.run_respelled input seasons unnamed only done after) before with
    same | ⟨s, e, failed, failedToo⟩
  · rw [extract, extract, same]
  · rw [extract, extract, failed, failedToo]

theorem extract_crossText (before after : List Text) (year : Int) (input : Text) {x : Char}
    {season first : Text} {last : Option Text} (cross : isCross x = true)
    (short : ShortDigits season) (shortFirst : ShortDigits first)
    (shortLast : ∀ t ∈ last, ShortDigits t) :
    (extract (before ++ crossText x season first last :: after) year input).parts =
      (extract (before ++ lettersText 'S' 'E' season first last :: after) year input).parts := by
  have letterless := crossText_letterless cross short shortFirst shortLast
  have seasons : seasonMarks (crossText x season first last) = [] :=
    seasonMarks_of_letterless true fun c member => (letterless c member).1
  have unnamed : episodeMarks (crossText x season first last) = [] :=
    episodeMarks_of_letterless true fun c member => (letterless c member).2
  rw [← respelled_crossText x]
  exact extract_respelled seasons unnamed (crossMarks_crossText cross short shortFirst shortLast)
    before after year input

/-- A season word takes no cross mark for its number, and a season that contradicts the cross mark
    contradicts the letters. -/
theorem extract_2x05_conflicting :
    (ShortDigits "2".toList ∧ ShortDigits "05".toList ∧ ShortDigits "06".toList) ∧
    (extract (["Season".toList] ++ "2x05-06".toList :: ["S03".toList]) (-1) []).parts =
      (extract (["Season".toList] ++ "S2E05-06".toList :: ["S03".toList]) (-1) []).parts ∧
    (extract (["Season".toList] ++ "S2E05-06".toList :: ["S03".toList]) (-1) []).parts =
      .error (.conflictingSeasons 2 3 []) := by
  have short : ShortDigits "2".toList ∧ ShortDigits "05".toList ∧ ShortDigits "06".toList := by
    decide
  have shortLast : ∀ t ∈ some "06".toList, ShortDigits t := by simpa using short.2.2
  have alike := extract_crossText ["Season".toList] ["S03".toList] (-1) [] (x := 'x') (by decide)
    short.1 short.2.1 shortLast
  exact ⟨short, alike, by decide +kernel⟩

end MediaNaming
