import MediaNaming.Proofs.Template.Brackets

/-
Extraction at any index. The scan for a group does not look at what it begins on. Where that is an
opening bracket, or where no bracket ends the scan, the answer is a group or the error that names
the index; elsewhere another character is taken for the opening bracket, and a cut may have no text.
-/
namespace MediaNaming

namespace Text

theorem dropBytes?_beyond {t u : Text} {n : Nat} (here : t.dropBytes? n = some u) (m : Nat) :
    t.dropBytes? (n + m) = u.dropBytes? m := by
  obtain ⟨lead, rfl, rfl⟩ := dropBytes?_some here
  clear here
  induction lead with
  | nil => simp
  | cons c lead ih =>
    have size := c.utf8Size_pos
    obtain ⟨k, total⟩ : ∃ k, c.utf8Size + byteSize lead + m = k + 1 :=
      ⟨c.utf8Size + byteSize lead + m - 1, by omega⟩
    have left : k + 1 - c.utf8Size = byteSize lead + m := by omega
    rw [byteSize_cons, total, List.cons_append, dropBytes?, if_pos (by omega), left, ih]

theorem dropBytes?_inner {t u : Text} {c : Char} {n : Nat} (here : t.dropBytes? n = some (c :: u))
    (wide : c.utf8Size ≠ 1) : t.dropBytes? (n + 1) = none := by
  have size := c.utf8Size_pos
  rw [dropBytes?_beyond here, dropBytes?, if_neg (by omega)]

theorem bracket_induct {P : Text → Prop} (nil : P []) (lone : P ['\\'])
    (escaped : ∀ c t, P t → P ('\\' :: c :: t)) (opening : ∀ t, P t → P ('(' :: t))
    (closing : ∀ t, P t → P (')' :: t))
    (plain : ∀ c t, c ≠ '\\' ∧ c ≠ '(' ∧ c ≠ ')' → P t → P (c :: t)) : ∀ t, P t := by
  intro t
  induction t using escape_induct with
  | nil => exact nil
  | lone => exact lone
  | escaped c t ih => exact escaped c t ih
  | other c t different ih =>
    by_cases opens : c = '('
    · exact opens ▸ opening t ih
    · by_cases closes : c = ')'
      · exact closes ▸ closing t ih
      · exact plain c t ⟨different, opens, closes⟩ ih

end Text

/-- A bracket after this text ends a scan that reads the text at this depth: the bracket is not
    escaped, and after it no more brackets are open than are closed. -/
structure EndsScan (depth : Nat) (s : Text) : Prop where
  counts : ¬ s.EndsInEscape
  shallow : depth + s.unescaped '(' ≤ s.unescaped ')' + 1

theorem endsScan_iff {depth : Nat} {s : Text} : EndsScan depth s ↔
    ¬ s.EndsInEscape ∧ depth + s.unescaped '(' ≤ s.unescaped ')' + 1 :=
  ⟨fun ends => ⟨ends.counts, ends.shallow⟩, fun both => ⟨both.1, both.2⟩⟩

theorem endsScan_nil (depth : Nat) : EndsScan depth [] ↔ depth ≤ 1 := by
  simp [endsScan_iff, Text.EndsInEscape, Text.unescaped, Text.escapes]

theorem endsScan_escape (depth : Nat) (c : Char) (s : Text) :
    EndsScan depth ('\\' :: c :: s) ↔ EndsScan depth s := by
  rw [endsScan_iff, endsScan_iff, Text.endsInEscape_escape,
    Text.unescaped_escape c s (by decide), Text.unescaped_escape c s (by decide)]

theorem endsScan_open (depth : Nat) (s : Text) :
    EndsScan depth ('(' :: s) ↔ EndsScan (depth + 1) s := by
  have other : '(' ≠ '\\' := by decide
  simp [endsScan_iff, Text.endsInEscape_other s other, Text.unescaped_other _ s other]
  omega

theorem endsScan_close {depth : Nat} (s : Text) (deep : 1 < depth) :
    EndsScan depth (')' :: s) ↔ EndsScan (depth - 1) s := by
  have other : ')' ≠ '\\' := by decide
  simp [endsScan_iff, Text.endsInEscape_other s other, Text.unescaped_other _ s other]
  omega

theorem endsScan_plain {c : Char} (depth : Nat) (s : Text) (other : c ≠ '\\' ∧ c ≠ '(' ∧ c ≠ ')') :
    EndsScan depth (c :: s) ↔ EndsScan depth s := by
  simp [endsScan_iff, Text.endsInEscape_other s other.1, Text.unescaped_other _ s other.1, other]

theorem closing?_deep {depth : Nat} (t : Text) (deep : 1 < depth) :
    closing? depth (')' :: t) = (closing? (depth - 1) t).map (1 + ·) := by
  rw [closing?.eq_def]
  simp [show ¬ depth ≤ 1 by omega]

theorem closing?_shallow {depth : Nat} (t : Text) (last : depth ≤ 1) :
    closing? depth (')' :: t) = some 0 := by
  rw [closing?.eq_def]
  simp [last]

theorem endsScan_of_closing? {depth n : Nat} {t : Text} (found : closing? depth t = some n) :
    ∃ s after, t = s ++ ')' :: after ∧ s.byteSize = n ∧ EndsScan depth s := by
  induction t using Text.bracket_induct generalizing depth n with
  | nil => simp [closing?] at found
  | lone => simp [closing?] at found
  | escaped c t ih =>
    rw [closing?_escape] at found
    obtain ⟨m, inner, rfl⟩ := Option.map_eq_some_iff.1 found
    obtain ⟨s, after, rfl, rfl, ends⟩ := ih inner
    exact ⟨'\\' :: c :: s, after, rfl, by simp [Nat.add_assoc, show '\\'.utf8Size = 1 from rfl],
      (endsScan_escape depth c s).2 ends⟩
  | opening t ih =>
    rw [closing?_open] at found
    obtain ⟨m, inner, rfl⟩ := Option.map_eq_some_iff.1 found
    obtain ⟨s, after, rfl, rfl, ends⟩ := ih inner
    exact ⟨'(' :: s, after, rfl, rfl, (endsScan_open depth s).2 ends⟩
  | closing t ih =>
    by_cases last : depth ≤ 1
    · rw [closing?_shallow t last] at found
      cases found
      exact ⟨[], t, rfl, rfl, (endsScan_nil depth).2 last⟩
    · have deep : 1 < depth := by omega
      rw [closing?_deep t deep] at found
      obtain ⟨m, inner, rfl⟩ := Option.map_eq_some_iff.1 found
      obtain ⟨s, after, rfl, rfl, ends⟩ := ih inner
      exact ⟨')' :: s, after, rfl, rfl, (endsScan_close s deep).2 ends⟩
  | plain c t other ih =>
    rw [closing?_plain _ _ other] at found
    obtain ⟨m, inner, rfl⟩ := Option.map_eq_some_iff.1 found
    obtain ⟨s, after, rfl, rfl, ends⟩ := ih inner
    exact ⟨c :: s, after, rfl, rfl, (endsScan_plain depth s other).2 ends⟩

theorem closing?_of_endsScan {depth : Nat} {s : Text} (ends : EndsScan depth s) (after : Text) :
    closing? depth (s ++ ')' :: after) ≠ none := by
  induction s using Text.bracket_induct generalizing depth with
  | nil => simp [closing?_shallow after ((endsScan_nil depth).1 ends)]
  | lone => exact absurd rfl ends.counts
  | escaped c s ih => simpa [closing?_escape] using ih ((endsScan_escape depth c s).1 ends)
  | opening s ih => simpa [closing?_open] using ih ((endsScan_open depth s).1 ends)
  | closing s ih =>
    -- at the outermost depth this bracket ends the scan, in front of the one that was promised
    by_cases last : depth ≤ 1
    · simp [closing?_shallow _ last]
    · have deep : 1 < depth := by omega
      simpa [closing?_deep _ deep] using ih ((endsScan_close s deep).1 ends)
  | plain c s other ih =>
    simpa [closing?_plain _ _ other] using ih ((endsScan_plain depth s other).1 ends)

def StrayScan (template : Text) (start : Nat) : Prop :=
  ∃ c t, template.dropBytes? start = some (c :: t) ∧ c ≠ '(' ∧
    ∃ s after, c :: t = s ++ ')' :: after ∧ EndsScan 0 s

section
variable {template inside after : Text} {start : Nat} {c : Char}

theorem scanGroup_backwards (here : template.dropBytes? start = some (')' :: after)) :
    scanGroup template start = .error (.brokenCut template (start + 1) start) := by
  have closes : closing? 0 (')' :: after) = some 0 := rfl
  simp [scanGroup, here, closes, Text.slice?]

variable (here : template.dropBytes? start = some (c :: inside ++ ')' :: after))
  (found : closing? 0 (c :: inside ++ ')' :: after) = some (Text.byteSize (c :: inside)))
include here found

theorem scanGroup_taken (single : c.utf8Size = 1) :
    scanGroup template start = .ok ⟨inside, start + inside.byteSize + 2⟩ := by
  have inner : template.dropBytes? (start + 1) = some (inside ++ ')' :: after) :=
    single ▸ Text.dropBytes?_later [c] here
  have cut := Text.slice?_of_dropBytes? inner
  simp only [scanGroup, here, Option.bind_some, found, Text.byteSize_cons, single, ← Nat.add_assoc,
    cut]
  rw [Nat.add_right_comm start 1]

theorem scanGroup_inside (wide : c.utf8Size ≠ 1) :
    ∃ stop, scanGroup template start = .error (.brokenCut template (start + 1) stop) := by
  have broken := Text.dropBytes?_inner here wide
  simp only [scanGroup, here, Option.bind_some, found, Text.slice?, broken, Option.bind_none]
  exact ⟨start + Text.byteSize (c :: inside), by split <;> simp_all⟩

end

structure GroupCache.ExtractsSafely (cache : GroupCache) (template : Text) (start : Nat) : Prop where
  group : ∀ g, (cache.extract template start).1 = .ok g →
    template.slice? start g.stop = some ('(' :: g.content ++ [')'])
  failure : ∀ e, (cache.extract template start).1 = .error e →
    e = .unterminatedGroup template start ∧ (cache.extract template start).2 = cache

/-- What comes of another character than an opening bracket where a bracket ends the scan. -/
def GroupCache.TakesForBracket (cache : GroupCache) (template : Text) (start : Nat) (c : Char) :
    Prop :=
  if c.utf8Size = 1 ∧ c ≠ ')' then
    ∃ g, (cache.extract template start).1 = .ok g ∧
      template.slice? start g.stop = some (c :: g.content ++ [')'])
  else ∃ stop, (cache.extract template start).1 = .error (.brokenCut template (start + 1) stop)

namespace GroupCache

variable {template t : Text} {start : Nat} {c : Char} (cache : GroupCache)

theorem extract_found {g : Group} (scanned : scanGroup template start = .ok g) :
    ∃ found, (cache.extract template start).1 = .ok found ∧ found.toGroup = g :=
  map_eq_ok.1 ((cache.extract_answer template start).trans scanned)

theorem extract_error {e : NamingError} : (cache.extract template start).1 = .error e ↔
    scanGroup template start = .error e := by
  rw [← cache.extract_answer, map_eq_error]

theorem extract_kept {e : NamingError} (failed : (cache.extract template start).1 = .error e) :
    (cache.extract template start).2 = cache :=
  extract_failed (cache.extract_error.1 failed) cache

theorem safe_of_found {g : Group} (scanned : scanGroup template start = .ok g)
    (cut : template.slice? start g.stop = some ('(' :: g.content ++ [')'])) :
    cache.ExtractsSafely template start := by
  obtain ⟨found, answer, rfl⟩ := cache.extract_found scanned
  refine ⟨fun g same => ?_, fun e failed => ?_⟩
  · obtain rfl := Except.ok.inj (answer.symm.trans same)
    exact cut
  · rw [answer] at failed
    contradiction

theorem safe_of_unterminated
    (scanned : scanGroup template start = .error (.unterminatedGroup template start)) :
    cache.ExtractsSafely template start := by
  have answer := cache.extract_error.2 scanned
  refine ⟨fun g found => ?_, fun e failed => ⟨?_, cache.extract_kept failed⟩⟩
  · rw [answer] at found
    contradiction
  · exact (Except.error.inj (answer.symm.trans failed)).symm

variable {cache}

theorem TakesForBracket.not_extractsSafely (takes : cache.TakesForBracket template start c)
    (other : c ≠ '(') : ¬ cache.ExtractsSafely template start := by
  intro safe
  rw [TakesForBracket] at takes
  split at takes
  · obtain ⟨g, answer, cut⟩ := takes
    rw [safe.group g answer] at cut
    exact other (List.cons.inj (Option.some.inj cut)).1.symm
  · obtain ⟨stop, answer⟩ := takes
    have named := (safe.failure _ answer).1
    contradiction

theorem takesForBracket_of_closing? {n : Nat} (here : template.dropBytes? start = some (c :: t))
    (found : closing? 0 (c :: t) = some n) : cache.TakesForBracket template start c := by
  obtain ⟨s, after, text, rfl, _⟩ := endsScan_of_closing? found
  rw [text] at here found
  rw [TakesForBracket]
  by_cases closes : c = ')'
  · subst closes
    rw [if_neg (by simp)]
    rw [← text] at here
    exact ⟨start, cache.extract_error.2 (scanGroup_backwards here)⟩
  · obtain ⟨inside, rfl⟩ : ∃ inside, s = c :: inside := by
      cases s with
      | nil => exact absurd (List.cons.inj text).1 closes
      | cons d inside => exact ⟨inside, by rw [(List.cons.inj text).1]⟩
    by_cases single : c.utf8Size = 1
    · obtain ⟨g, answer, same⟩ := cache.extract_found (scanGroup_taken here found single)
      rw [if_pos ⟨single, closes⟩]
      refine ⟨g, answer, ?_⟩
      rw [same]
      exact slice?_enclosed single here
    · obtain ⟨stop, broken⟩ := scanGroup_inside here found single
      rw [if_neg fun both => single both.1]
      exact ⟨stop, cache.extract_error.2 broken⟩

theorem safe_of_not_stray (cache : GroupCache) (steady : ¬ StrayScan template start) :
    cache.ExtractsSafely template start := by
  rcases here : template.dropBytes? start with _ | _ | ⟨c, t⟩
  · exact cache.safe_of_unterminated (by simp [scanGroup, here])
  · exact cache.safe_of_unterminated (by simp [scanGroup, here, closing?])
  · by_cases opens : c = '('
    · subst opens
      rcases scanGroup_cases here with ⟨s, after, rfl, _, scanned⟩ | ⟨unclosed, _⟩
      · exact cache.safe_of_found scanned (slice?_brackets here)
      · exact cache.safe_of_unterminated unclosed
    · cases found : closing? 0 (c :: t) with
      | none => exact cache.safe_of_unterminated (by simp [scanGroup, here, found])
      | some n =>
        obtain ⟨s, after, text, _, ends⟩ := endsScan_of_closing? found
        exact absurd ⟨c, t, here, opens, s, after, text, ends⟩ steady

end GroupCache

theorem extract_safe_iff (cache : GroupCache) (template : Text) (start : Nat) :
    (cache.ExtractsSafely template start ↔ ¬ StrayScan template start) ∧
      (∀ c t, template.dropBytes? start = some (c :: t) → StrayScan template start →
        cache.TakesForBracket template start c) ∧
      ∀ e, (cache.extract template start).1 = .error e →
        (cache.extract template start).2 = cache := by
  have takes : StrayScan template start → ∃ c t, template.dropBytes? start = some (c :: t) ∧
      c ≠ '(' ∧ cache.TakesForBracket template start c := by
    rintro ⟨c, t, here, other, s, after, text, ends⟩
    obtain ⟨n, found⟩ := Option.ne_none_iff_exists'.1 (closing?_of_endsScan ends after)
    rw [← text] at found
    exact ⟨c, t, here, other, GroupCache.takesForBracket_of_closing? here found⟩
  refine ⟨⟨fun safe stray => ?_, cache.safe_of_not_stray⟩, fun c t here stray => ?_,
    fun e failed => cache.extract_kept failed⟩
  · obtain ⟨c, t, here, other, taken⟩ := takes stray
    exact taken.not_extractsSafely other safe
  · obtain ⟨d, u, also, other, taken⟩ := takes stray
    cases here.symm.trans also
    exact taken

theorem extract_unsafe_off_bracket :
    scanGroup "a)".toList 0 = .ok ⟨[], 2⟩ ∧
      scanGroup ")".toList 0 = .error (.brokenCut ")".toList 1 0) ∧
      scanGroup "é)".toList 0 = .error (.brokenCut "é)".toList 1 2) ∧
      ["a)".toList, ")".toList, "é)".toList].Forall fun template =>
        ¬ ({} : GroupCache).ExtractsSafely template 0 := by
  have letter : scanGroup "a)".toList 0 = .ok ⟨[], 2⟩ := by decide
  have bracket : scanGroup ")".toList 0 = .error (.brokenCut ")".toList 1 0) := by decide
  have wide : scanGroup "é)".toList 0 = .error (.brokenCut "é)".toList 1 2) := by decide
  refine ⟨letter, bracket, wide, fun safe => ?_, fun safe => ?_, fun safe => ?_⟩
  · obtain ⟨g, answer, same⟩ := ({} : GroupCache).extract_found letter
    have cut := safe.group g answer
    rw [same] at cut
    revert cut
    decide
  · have named := (safe.failure _ (({} : GroupCache).extract_error.2 bracket)).1
    contradiction
  · have named := (safe.failure _ (({} : GroupCache).extract_error.2 wide)).1
    contradiction

end MediaNaming
