import MediaNaming.Proofs.Naming.Joining
import MediaNaming.Proofs.Sector.EmptySectors
import MediaNaming.Proofs.Sector.Solid

/-
Series names and titles as they come out of sectors: solid words with one space between them and
neither a hyphen nor a blank at either end. Such a phrase is the join of its words.
-/
namespace MediaNaming

def Spaced (a b : Char) : Prop := a = ' ' → b ≠ ' '

structure Phrase (t : Text) : Prop where
  solid : ∀ c ∈ t, c = ' ' ∨ isSolid c = true
  spaced : t.IsChain Spaced
  first : ∀ c ∈ t.head?, isHyphenOrBlank c = false
  last : ∀ c ∈ t.getLast?, isHyphenOrBlank c = false

theorem Phrase.flat {t : Text} (phrase : Phrase t) : pathSeparator ∉ t := by
  intro inside
  have solid := phrase.solid pathSeparator inside
  revert solid
  decide

theorem isSolid_ne_space {c : Char} (solid : isSolid c = true) : c ≠ ' ' := by
  rintro rfl
  revert solid
  decide

theorem phrase_nil : Phrase [] := ⟨by simp, List.IsChain.nil, by simp, by simp⟩

theorem spaced_join {words : List Text} (solid : ∀ w ∈ words, w ≠ [] ∧ Solid w) :
    (∀ c ∈ Text.join [' '] words, c = ' ' ∨ isSolid c = true) ∧
      (Text.join [' '] words).IsChain Spaced := by
  induction words with
  | nil => exact ⟨by simp [Text.join, List.intercalate], List.IsChain.nil⟩
  | cons w words ih =>
    obtain ⟨nonempty, here⟩ := solid w (by simp)
    obtain ⟨chars, chain⟩ := ih fun v member => solid v (by simp [member])
    have word : w.IsChain Spaced := by
      apply List.Pairwise.isChain
      exact List.pairwise_of_forall_mem_list fun c member d _ space =>
        absurd space (isSolid_ne_space (here c member))
    by_cases last : words = []
    · simp only [last, Text.join, List.intercalate, List.intersperse_singleton,
        List.flatten_singleton]
      exact ⟨fun c member => Or.inr (here c member), word⟩
    · have ends : ∀ c ∈ (Text.join [' '] words).head?, isSolid c = true :=
        (Text.join_ends [' '] fun v member => solid v (by simp [member])).1
      rw [Text.join_cons _ _ last, List.append_assoc]
      constructor
      · intro c member
        simp only [List.mem_append, List.mem_singleton] at member
        rcases member with inside | rfl | later
        · exact Or.inr (here c inside)
        · exact Or.inl rfl
        · exact chars c later
      · rw [List.isChain_append, List.singleton_append, List.isChain_cons]
        refine ⟨word, ⟨fun d head _ => isSolid_ne_space (ends d head), chain⟩, ?_⟩
        intro c final d head space
        exact absurd space (isSolid_ne_space (here c (List.mem_of_mem_getLast? final)))

theorem trimEnds_isInfix (drops : Char → Bool) (t : Text) : t.trimEnds drops <:+: t := by
  obtain ⟨lead, tail, whole, -⟩ := Text.trimEnds_within drops t
  exact ⟨lead, tail, whole.symm⟩

def CleanEnds (t : Text) : Prop :=
  (∀ c ∈ t.head?, isHyphenOrBlank c = false) ∧ ∀ c ∈ t.getLast?, isHyphenOrBlank c = false

theorem phrase_trimEnds {t s : Text} (solid : ∀ c ∈ t, c = ' ' ∨ isSolid c = true)
    (spaced : t.IsChain Spaced) (inside : s <:+: t) (ends : CleanEnds s) : Phrase s :=
  ⟨fun c member => solid c (inside.subset member), spaced.infix inside, ends.1, ends.2⟩

theorem phrase_joinSectors {sectors : List Text} (solid : ∀ t ∈ sectors, t ≠ [] ∧ Solid t) :
    Phrase (joinSectors sectors) := by
  obtain ⟨chars, chain⟩ := spaced_join solid
  exact phrase_trimEnds chars chain (trimEnds_isInfix _ _) (Text.trimEnds_ends _ _)

theorem splitFirst?_text {c : Char} {t left right : Text}
    (found : t.splitFirst? c = some (left, right)) : t = left ++ c :: right ∧ c ∉ left := by
  induction t generalizing left with
  | nil => simp [Text.splitFirst?] at found
  | cons d t ih =>
    simp only [Text.splitFirst?] at found
    split at found
    · rename_i same
      cases found
      exact ⟨by rw [same]; rfl, by simp⟩
    · rename_i other
      obtain ⟨⟨front, back⟩, here, same⟩ := Option.map_eq_some_iff.1 found
      cases same
      obtain ⟨rfl, absent⟩ := ih here
      exact ⟨rfl, by simp [absent, Ne.symm other]⟩

/-- The text is `left` and `right` around its only hyphen, which has a space on both sides. -/
structure SplitsAtHyphen (t left right : Text) : Prop where
  text : t = left ++ ' ' :: '-' :: ' ' :: right
  before : '-' ∉ left
  after : '-' ∉ right

theorem splitAtHyphen?_eq_some {t name title : Text} :
    splitAtHyphen? t = some (name, title) ↔
      ∃ left right, SplitsAtHyphen t left right ∧ name = left.trim ∧ title = right.trim := by
  have trimmed (left right : Text) :
      Text.trim (left ++ [' ']) = left.trim ∧ Text.trim (' ' :: right) = right.trim :=
    ⟨Text.trimEnds_append_right left (by decide),
      Text.trimEnds_append_left (s := [' ']) right (by decide)⟩
  constructor
  · intro found
    simp only [splitAtHyphen?] at found
    split at found
    · simp at found
    · rename_i front back cut
      split at found
      · rename_i spaced
        obtain ⟨unhyphened, ends, begins⟩ := spaced
        cases found
        obtain ⟨rfl, absent⟩ := splitFirst?_text cut
        obtain ⟨left, rfl⟩ := List.getLast?_eq_some_iff.1 (beq_iff_eq.1 ends)
        obtain ⟨right, rfl⟩ := List.head?_eq_some_iff.1 begins
        simp only [List.mem_append, not_or, List.mem_cons] at absent unhyphened
        exact ⟨left, right, ⟨by simp, absent.1, unhyphened.2⟩, (trimmed left right).1,
          (trimmed left right).2⟩
      · simp at found
  · rintro ⟨left, right, ⟨rfl, before, after⟩, rfl, rfl⟩
    have front : '-' ∉ left ++ [' '] := by simp [before]
    have cut := Text.splitFirst?_append ('-' :: ' ' :: right) front
    rw [List.append_assoc] at cut
    simp only [List.singleton_append, Text.splitFirst?, if_true, Option.map_some,
      List.append_nil] at cut
    rw [splitAtHyphen?, cut]
    simp [after, Text.endsWith, trimmed left right]

theorem cleanEnds_trim {t : Text} (unhyphened : '-' ∉ t) : CleanEnds t.trim := by
  have clean {c : Char} (member : c ∈ t.trim) (blank : isBlank c = false) :
      isHyphenOrBlank c = false := by
    have other : c ≠ '-' := by
      rintro rfl
      exact unhyphened (Text.mem_trimEnds member)
    simp [isHyphenOrBlank, other, blank]
  obtain ⟨first, last⟩ := Text.trimEnds_ends isBlank t
  exact ⟨fun c head => clean (List.mem_of_mem_head? head) (first c head),
    fun c final => clean (List.mem_of_mem_getLast? final) (last c final)⟩

theorem phrase_splitAtHyphen {t left right : Text} (phrase : Phrase t)
    (found : splitAtHyphen? t = some (left, right)) : Phrase left ∧ Phrase right := by
  obtain ⟨front, back, ⟨rfl, before, after⟩, rfl, rfl⟩ := splitAtHyphen?_eq_some.1 found
  constructor
  · apply phrase_trimEnds phrase.solid phrase.spaced _ (cleanEnds_trim before)
    exact (trimEnds_isInfix _ _).trans (List.prefix_append front _).isInfix
  · apply phrase_trimEnds phrase.solid phrase.spaced _ (cleanEnds_trim after)
    exact (trimEnds_isInfix _ _).trans
      ((List.suffix_append [' ', '-', ' '] back).trans (List.suffix_append front _)).isInfix

def wordsOf (t : Text) : List Text := (sectorsOf t).filter isFull

theorem wordsOf_space (s t : Text) : wordsOf (s ++ ' ' :: t) = wordsOf s ++ wordsOf t := by
  rw [wordsOf, sectorsOf, Text.pieces_append_stop (by decide), List.filter_append]
  rfl

theorem wordsOf_cons_space (t : Text) : wordsOf (' ' :: t) = wordsOf t := wordsOf_space [] t

theorem wordsOf_part {s part : Text} (space : ∀ c ∈ part.head?, c = ' ') :
    wordsOf (s ++ part) = wordsOf s ++ wordsOf part := by
  cases part with
  | nil => simp [show wordsOf [] = [] from rfl]
  | cons c part =>
    obtain rfl := space c rfl
    rw [wordsOf_space, wordsOf_cons_space]

theorem wordsOf_solid {t : Text} (full : t ≠ []) (clean : ∀ c ∈ t, isDelimiter c = false) :
    wordsOf t = [t] := by
  rw [wordsOf, sectorsOf, Text.pieces_of_clean clean, filter_full full]
  rfl

theorem wordsOf_join {words : List Text} (solid : ∀ w ∈ words, w ≠ [] ∧ Solid w) :
    wordsOf (Text.join [' '] words) = words := by
  induction words with
  | nil => rfl
  | cons w words ih =>
    obtain ⟨full, here⟩ := solid w (by simp)
    have single : wordsOf w = [w] := wordsOf_solid full fun c member => (isSolid_iff.1 (here c member)).1
    have later := ih fun v member => solid v (by simp [member])
    by_cases last : words = []
    · simpa [last, Text.join, List.intercalate] using single
    · rw [Text.join_cons _ _ last, List.append_assoc, List.singleton_append, wordsOf_space, single,
        later]
      rfl

theorem join_sectorsOf {t : Text} (spaces : ∀ c ∈ t, c = ' ' ∨ isSolid c = true) :
    Text.join [' '] (sectorsOf t) = t := by
  induction t with
  | nil => rfl
  | cons c t ih =>
    have rest := ih fun d member => spaces d (by simp [member])
    have full := Text.pieces_ne_nil isDelimiter t
    rcases spaces c (by simp) with rfl | solid
    · rw [sectorsOf, Text.pieces_stop (by decide), Text.join_cons _ _ full]
      exact congrArg (' ' :: ·) rest
    · obtain ⟨piece, more, eq⟩ := List.exists_cons_of_ne_nil full
      have clean := (isSolid_iff.1 solid).1
      rw [sectorsOf, eq] at rest
      rw [sectorsOf, Text.pieces, eq]
      simp only [clean, Bool.false_eq_true, if_false]
      by_cases last : more = []
      · simpa [last, Text.join, List.intercalate] using rest
      · rw [Text.join_cons _ _ last] at rest ⊢
        simpa using rest

/-- Between spaces that stand apart there is no empty sector, but for one before a space at the
    front. -/
theorem sectorsOf_spaced {t : Text} (nonempty : t ≠ [])
    (spaces : ∀ c ∈ t, c = ' ' ∨ isSolid c = true) (spaced : t.IsChain Spaced)
    (last : t.getLast? ≠ some ' ') :
    ∃ piece more, sectorsOf t = piece :: more ∧ (piece = [] → t.head? = some ' ') ∧
      ∀ s ∈ more, s ≠ [] := by
  induction t with
  | nil => contradiction
  | cons c t ih =>
    by_cases single : t = []
    · have solid : isSolid c = true := (spaces c (by simp)).resolve_left
        (by rintro rfl; exact last (by simp [single]))
      refine ⟨[c], [], ?_, by simp, by simp⟩
      rw [single, sectorsOf, Text.pieces_of_clean (by simpa using (isSolid_iff.1 solid).1)]
    · rw [List.isChain_cons] at spaced
      rw [List.getLast?_cons_of_ne_nil single] at last
      obtain ⟨piece, more, eq, front, full⟩ :=
        ih single (fun d member => spaces d (by simp [member])) spaced.2 last
      rcases spaces c (by simp) with rfl | solid
      · refine ⟨[], piece :: more, ?_, by simp, ?_⟩
        · rw [sectorsOf, Text.pieces_stop (by decide)]
          exact congrArg ([] :: ·) eq
        · intro s member
          rcases List.mem_cons.1 member with rfl | later
          · intro empty
            exact spaced.1 ' ' (front empty) rfl rfl
          · exact full s later
      · refine ⟨c :: piece, more, ?_, by simp, full⟩
        rw [sectorsOf] at eq ⊢
        simp [Text.pieces, eq, (isSolid_iff.1 solid).1]

theorem join_wordsOf {t : Text} (phrase : Phrase t) : Text.join [' '] (wordsOf t) = t := by
  by_cases empty : t = []
  · rw [empty]
    decide
  · have last : t.getLast? ≠ some ' ' := by
      intro final
      have := phrase.last ' ' final
      revert this
      decide
    obtain ⟨piece, more, eq, front, full⟩ := sectorsOf_spaced empty phrase.solid phrase.spaced last
    have filled : piece ≠ [] := by
      intro none
      have := phrase.first ' ' (front none)
      revert this
      decide
    have all : wordsOf t = sectorsOf t := by
      apply List.filter_eq_self.2
      intro s member
      rw [eq] at member
      rcases List.mem_cons.1 member with rfl | later
      · exact isFull_iff.2 filled
      · exact isFull_iff.2 (full s later)
    rw [all, join_sectorsOf phrase.solid]

theorem joinSectors_wordsOf {t : Text} (phrase : Phrase t) : joinSectors (wordsOf t) = t := by
  rw [joinSectors, join_wordsOf phrase]
  exact Text.trimEnds_eq_self phrase.first phrase.last

theorem phrase_nameAndTitle {sectors : List Text} (solid : ∀ t ∈ sectors, t ≠ [] ∧ Solid t)
    (block : Option (Nat × Nat)) (year : Int) :
    Phrase (nameAndTitle sectors block year).1 ∧ Phrase (nameAndTitle sectors block year).2 := by
  have undated {part : List Text} (among : ∀ t ∈ part, t ∈ sectors) :
      ∀ t ∈ withoutYear year part, t ≠ [] ∧ Solid t := by
    intro t member
    rw [withoutYear_eq_filter] at member
    exact solid t (among t (List.mem_filter.1 member).1)
  have name {part : List Text} (among : ∀ t ∈ part, t ∈ sectors) : Phrase (joinName year part) := by
    rw [joinName]
    split
    · exact phrase_joinSectors fun t member => solid t (among t member)
    · exact phrase_joinSectors (undated among)
  simp only [nameAndTitle]
  split
  · exact ⟨name fun t member => member, phrase_nil⟩
  · rename_i stop
    have after : Phrase (joinSectors (sectors.drop (stop + 1))) :=
      phrase_joinSectors fun t member => solid t (List.mem_of_mem_drop member)
    cases found : splitAtHyphen? (joinSectors (sectors.drop (stop + 1))) with
    | none => exact ⟨phrase_nil, after⟩
    | some parts => exact phrase_splitAtHyphen after found
  · exact ⟨name fun t member => List.mem_of_mem_take member,
      phrase_joinSectors (undated fun t member => List.mem_of_mem_drop member)⟩

end MediaNaming
