import MediaNaming.Json.Reader
import MediaNaming.Json.Writer
import MediaNaming.Proofs.Naming.Fragments

/-
Documents that are read back as they were written. A written value is lexed into its tokens, which
open and close with the value; the reader turns the tokens of a value into the value, whatever is
open around it.
-/
namespace MediaNaming

def Runs {σ τ : Type} (step : σ → τ → Option σ) (s : σ) (inputs : List τ) (after : σ) : Prop :=
  inputs.foldlM step s = some after

namespace Runs

variable {σ τ : Type} {step : σ → τ → Option σ} {s next after : σ} {input : τ}
  {inputs more : List τ}

theorem nil (s : σ) : Runs step s [] s := rfl

theorem cons (first : step s input = some next) (later : Runs step next inputs after) :
    Runs step s (input :: inputs) after := by
  rw [Runs, List.foldlM_cons, first]
  exact later

theorem one (first : step s input = some next) : Runs step s [input] next := cons first (nil next)

theorem append (first : Runs step s inputs next) (later : Runs step next more after) :
    Runs step s (inputs ++ more) after := by
  rw [Runs, List.foldlM_append, first]
  exact later

end Runs

namespace Json

/-- Values without fractions whose strings and names are texts. -/
inductive Textual : Json → Prop
  | null : Textual null
  | bool (b : Bool) : Textual (bool b)
  | integer (n : Int) : Textual (integer n)
  | string (t : Text) : Textual (string (some t))
  | array {items : List Json} (each : ∀ item ∈ items, Textual item) : Textual (array items)
  | object {members : List (Option Text × Json)} (named : ∀ member ∈ members, member.1 ≠ none)
      (each : ∀ member ∈ members, Textual member.2) : Textual (object members)

mutual

def tokensOf : Json → List JsonToken
  | string t => [.string t]
  | array items => .openArray :: tokensOfItems items
  | object members => .openObject :: tokensOfMembers members
  | value => [.scalar value]

def tokensOfItems : List Json → List JsonToken
  | [] => [.closeArray]
  | [item] => tokensOf item ++ [.closeArray]
  | item :: more => tokensOf item ++ .comma :: tokensOfItems more

def tokensOfMembers : List (Option Text × Json) → List JsonToken
  | [] => [.closeObject]
  | [(name, value)] => .string name :: .colon :: tokensOf value ++ [.closeObject]
  | (name, value) :: more =>
    .string name :: .colon :: tokensOf value ++ .comma :: tokensOfMembers more

end

variable {ts : List JsonToken} {units : List Nat}

theorem hexValue?_digitChar : ∀ d < 16, hexValue? (Nat.digitChar d) = some d := by decide

theorem lexes_hexDigits4 {n : Nat} (small : n < 0x10000) :
    Runs Lexer.step? ⟨ts, .code units 3 0⟩ (hexDigits4 n) ⟨ts, .quoted (n :: units)⟩ := by
  have digit (d : Nat) := hexValue?_digitChar (d % 16) (Nat.mod_lt d (by decide))
  have value : 16 * (16 * (16 * (n / 4096 % 16) + n / 256 % 16) + n / 16 % 16) + n % 16 = n := by
    omega
  simp [Runs, hexDigits4, Lexer.step?, digit, value]

theorem lexes_escapedUnit (c : Char) :
    Runs Lexer.step? ⟨ts, .quoted units⟩ (escapedUnit c) ⟨ts, .quoted (c.toNat :: units)⟩ := by
  unfold escapedUnit
  split
  · rename_i same
    rw [same]
    exact .cons rfl (.one rfl)
  · rename_i unquoted
    split
    · rename_i same
      rw [same]
      exact .cons rfl (.one rfl)
    · rename_i unescaped
      split
      · rename_i control
        exact .cons rfl (.cons rfl (lexes_hexDigits4 (by omega)))
      · rename_i shown
        exact .one (by simp [Lexer.step?, unquoted, unescaped, shown])

theorem lexes_escaped (t : Text) :
    Runs Lexer.step? ⟨ts, .quoted units⟩ (t.flatMap escapedUnit)
      ⟨ts, .quoted ((t.map Char.toNat).reverse ++ units)⟩ := by
  induction t generalizing units with
  | nil => exact .nil _
  | cons c t ih =>
    rw [List.flatMap_cons]
    simpa using (lexes_escapedUnit c).append ih

theorem textOfUnits?_toNat (t : Text) : textOfUnits? (t.map Char.toNat) = some t := by
  induction t with
  | nil => rfl
  | cons c t ih =>
    -- the code point of a character is no surrogate
    have valid : c.toNat < 0xD800 ∨ 0xDFFF < c.toNat := by
      have := c.valid
      simp only [UInt32.isValidChar, Nat.isValidChar] at this
      have same : c.toNat = c.val.toNat := rfl
      omega
    have single : ¬ (0xD800 ≤ c.toNat ∧ c.toNat ≤ 0xDFFF) := by omega
    cases t with
    | nil => simp [textOfUnits?, single]
    | cons d t =>
      have unpaired : ¬ (0xD800 ≤ c.toNat ∧ c.toNat ≤ 0xDBFF ∧ 0xDC00 ≤ d.toNat ∧
          d.toNat ≤ 0xDFFF) := by omega
      simp only [List.map_cons] at ih ⊢
      rw [textOfUnits?, if_neg unpaired, if_neg single, ih]
      simp

theorem lexes_writeString (t : Text) :
    Runs Lexer.step? ⟨ts, .between⟩ (writeString (some t)) ⟨.string (some t) :: ts, .between⟩ := by
  refine .cons rfl ((lexes_escaped t).append (.one ?_))
  simp [Lexer.step?, textOfUnits?_toNat]

/-- The lexer has these tokens, last first, a word at the end included. -/
inductive Holds : Lexer → List JsonToken → Prop
  | between (ts : List JsonToken) : Holds ⟨ts, .between⟩ ts
  | word {ts : List JsonToken} {characters : Text} {value : Json}
      (reads : scalar? characters.reverse = some value) :
      Holds ⟨ts, .word characters⟩ (.scalar value :: ts)

theorem Holds.mark {lexer : Lexer} {c : Char} {token : JsonToken} (holds : Holds lexer ts)
    (marks : mark? c = some token) : lexer.step? c = some ⟨token :: ts, .between⟩ := by
  cases holds with
  | between => simp [Lexer.step?, Lexer.fresh, marks]
  | word reads => simp [Lexer.step?, Lexer.fresh, marks, reads]

theorem Holds.tokens? {lexer : Lexer} (holds : Holds lexer ts) :
    lexer.tokens? = some ts.reverse := by
  cases holds with
  | between => rfl
  | word reads => simp [Lexer.tokens?, reads]

def IsWordCharacter (c : Char) : Prop := mark? c = none ∧ isJsonBlank c = false ∧ c ≠ '"'

instance (c : Char) : Decidable (IsWordCharacter c) := inferInstanceAs (Decidable (_ ∧ _))

theorem lexes_characters {word characters : Text} (plain : ∀ c ∈ word, IsWordCharacter c) :
    Runs Lexer.step? ⟨ts, .word characters⟩ word ⟨ts, .word (word.reverse ++ characters)⟩ := by
  induction word generalizing characters with
  | nil => exact .nil _
  | cons c word ih =>
    obtain ⟨unmarked, full, unquoted⟩ := plain c (by simp)
    have step : Lexer.step? ⟨ts, .word characters⟩ c = some ⟨ts, .word (c :: characters)⟩ := by
      simp [Lexer.step?, unmarked, full, unquoted]
    simpa using Runs.cons step (ih fun d member => plain d (by simp [member]))

theorem lexes_word {word : Text} {value : Json} (reads : scalar? word = some value)
    (nonempty : word ≠ []) (plain : ∀ c ∈ word, IsWordCharacter c) :
    ∃ after, Runs Lexer.step? ⟨ts, .between⟩ word after ∧ Holds after (.scalar value :: ts) := by
  obtain ⟨c, word, rfl⟩ := List.exists_cons_of_ne_nil nonempty
  obtain ⟨unmarked, full, unquoted⟩ := plain c (by simp)
  have step : Lexer.step? ⟨ts, .between⟩ c = some ⟨ts, .word [c]⟩ := by
    simp [Lexer.step?, Lexer.fresh, unmarked, full, unquoted]
  refine ⟨_, .cons step (lexes_characters fun d member => plain d (by simp [member])), .word ?_⟩
  simpa using reads

theorem isWordCharacter_of_isDigit {c : Char} (digit : c.isDigit = true) : IsWordCharacter c := by
  have other {d : Char} (mark : d.isDigit = false) : c ≠ d := by
    rintro rfl
    simp [digit] at mark
  refine ⟨?_, ?_, other (by decide)⟩
  · have unmarked : c ≠ '[' ∧ c ≠ ']' ∧ c ≠ '\x7b' ∧ c ≠ '\x7d' ∧ c ≠ ',' ∧ c ≠ ':' := by
      refine ⟨?_, ?_, ?_, ?_, ?_, ?_⟩ <;> exact other (by decide)
    simp [mark?, unmarked]
  · have full : c ≠ ' ' ∧ c ≠ '\n' ∧ c ≠ '\t' ∧ c ≠ '\r' := by
      refine ⟨?_, ?_, ?_, ?_⟩ <;> exact other (by decide)
    simp [isJsonBlank, full]

theorem head?_ofNumber {n : Nat} (positive : 0 < n) : (Text.ofNumber n).head? ≠ some '0' := by
  have lone : ∀ d < 10, 0 < d → Nat.digitChar d ≠ '0' := by decide
  induction n using Nat.strongRecOn with
  | ind n ih =>
    by_cases single : n < 10
    · simpa [Text.ofNumber, Nat.toDigits_of_lt_base single] using lone n single positive
    · have front : Nat.toDigits 10 (n / 10) ≠ [] := Nat.toDigits_ne_nil
      rw [Text.ofNumber, Nat.toDigits_of_base_le (by decide) (by omega),
        List.head?_append_of_ne_nil _ front]
      exact ih (n / 10) (by omega) (by omega)

theorem number?_ofNumber (n : Nat) :
    number? (Text.ofNumber n) = some (integer n) ∧
      (0 < n → number? ('-' :: Text.ofNumber n) = some (integer (-n))) := by
  have digits := ofNumber_digits n
  have nonempty : Text.ofNumber n ≠ [] := Nat.toDigits_ne_nil
  have unsigned : (Text.ofNumber n).head? ≠ some '-' := by
    intro head
    have digit := digits '-' (List.mem_of_mem_head? head)
    contradiction
  have short : ¬ ((Text.ofNumber n).head? = some '0' ∧ Text.ofNumber n ≠ ['0']) := by
    rintro ⟨head, long⟩
    rcases Nat.eq_zero_or_pos n with rfl | positive
    · exact long rfl
    · exact head?_ofNumber positive head
  have whole : (Text.ofNumber n).takeWhile Char.isDigit = Text.ofNumber n ∧
      (Text.ofNumber n).dropWhile Char.isDigit = [] :=
    ⟨List.takeWhile_eq_self_iff.2 digits, List.dropWhile_eq_nil_iff.2 digits⟩
  have value := decimalValue_ofNumber n
  constructor
  · simp [number?, unsigned, whole, nonempty, short, value, afterFraction?, afterExponent?]
  · intro positive
    have negative : n ≠ 0 := by omega
    simp [number?, whole, nonempty, short, value, negative, afterFraction?, afterExponent?]

theorem number?_writeInteger (n : Int) : number? (writeInteger n) = some (integer n) := by
  cases n with
  | ofNat n => exact (number?_ofNumber n).1
  | negSucc n => exact (number?_ofNumber (n + 1)).2 (Nat.succ_pos n)

theorem writeInteger_characters (n : Int) :
    ∀ c ∈ writeInteger n, c = '-' ∨ c.isDigit = true := by
  cases n with
  | ofNat n => exact fun c member => Or.inr (ofNumber_digits n c member)
  | negSucc n =>
    intro c member
    exact (List.mem_cons.1 member).imp_right (ofNumber_digits (n + 1) c)

theorem scalar?_writeInteger (n : Int) : scalar? (writeInteger n) = some (integer n) := by
  have other {word : Text} (c : Char) (member : c ∈ word) (letter : c ≠ '-' ∧ c.isDigit = false) :
      writeInteger n ≠ word := by
    rintro rfl
    simpa [letter] using writeInteger_characters n c member
  rw [scalar?, if_neg (other 'n' (by decide) (by decide)),
    if_neg (other 't' (by decide) (by decide)), if_neg (other 'f' (by decide) (by decide)),
    number?_writeInteger]

/-- The written text has these tokens. The last one may be a word, which goes on with the text. -/
def LexesAs (written : Text) (tokens : List JsonToken) : Prop :=
  ∀ ts, ∃ after, Runs Lexer.step? ⟨ts, .between⟩ written after ∧ Holds after (tokens.reverse ++ ts)

def LexesUpTo (written : Text) (tokens : List JsonToken) : Prop :=
  ∀ ts, Runs Lexer.step? ⟨ts, .between⟩ written ⟨tokens.reverse ++ ts, .between⟩

section Lexing

variable {written more name : Text} {tokens later : List JsonToken} {c : Char} {token : JsonToken}

theorem LexesUpTo.value (whole : LexesUpTo written tokens) : LexesAs written tokens :=
  fun ts => ⟨_, whole ts, .between _⟩

theorem LexesUpTo.nil : LexesUpTo [] [] := fun _ => .nil _

theorem LexesUpTo.mark (marks : mark? c = some token) (rest : LexesUpTo more later) :
    LexesUpTo (c :: more) (token :: later) := by
  intro ts
  simpa using Runs.cons ((Holds.between ts).mark marks) (rest (token :: ts))

theorem LexesUpTo.string (name : Text) (rest : LexesUpTo more later) :
    LexesUpTo (writeString (some name) ++ more) (.string (some name) :: later) := by
  intro ts
  simpa using (lexes_writeString name).append (rest (.string (some name) :: ts))

theorem LexesAs.mark (value : LexesAs written tokens) (marks : mark? c = some token)
    (rest : LexesUpTo more later) :
    LexesUpTo (written ++ c :: more) (tokens ++ token :: later) := by
  intro ts
  obtain ⟨after, runs, holds⟩ := value ts
  simpa using runs.append (.cons (holds.mark marks) (rest (token :: (tokens.reverse ++ ts))))

theorem lexesAs_word {word : Text} {value : Json} (reads : scalar? word = some value)
    (nonempty : word ≠ []) (plain : ∀ c ∈ word, IsWordCharacter c) :
    LexesAs word [.scalar value] := fun _ => lexes_word reads nonempty plain

theorem lexes_writeItems {items : List Json}
    (each : ∀ item ∈ items, LexesAs (write item) (tokensOf item)) :
    LexesUpTo (writeItems items) (tokensOfItems items) := by
  induction items with
  | nil => exact .mark rfl .nil
  | cons item items ih =>
    have first := each item (by simp)
    cases items with
    | nil => exact first.mark rfl .nil
    | cons next items => exact first.mark rfl (ih fun item member => each item (by simp [member]))

theorem lexes_writeMembers {members : List (Option Text × Json)}
    (named : ∀ member ∈ members, member.1 ≠ none)
    (each : ∀ member ∈ members, LexesAs (write member.2) (tokensOf member.2)) :
    LexesUpTo (writeMembers members) (tokensOfMembers members) := by
  induction members with
  | nil => exact .mark rfl .nil
  | cons member members ih =>
    obtain ⟨name, value⟩ := member
    obtain ⟨name, rfl⟩ := Option.ne_none_iff_exists'.1 (named (name, value) (by simp))
    have first : LexesAs (write value) (tokensOf value) := each (some name, value) (by simp)
    cases members with
    | nil => simpa [writeMembers, tokensOfMembers] using
        LexesUpTo.string name (.mark rfl (first.mark rfl .nil))
    | cons next members =>
      have rest := ih (fun member inside => named member (by simp [inside]))
        fun member inside => each member (by simp [inside])
      simpa [writeMembers, tokensOfMembers] using
        LexesUpTo.string name (.mark rfl (first.mark rfl rest))

theorem lexes_write {value : Json} (textual : Textual value) :
    LexesAs (write value) (tokensOf value) := by
  induction textual with
  | null => exact lexesAs_word rfl (by decide) (by decide)
  | bool b => cases b <;> exact lexesAs_word rfl (by decide) (by decide)
  | integer n =>
    refine lexesAs_word (scalar?_writeInteger n) ?_ fun c member => ?_
    · intro none
      have reads : scalar? (write (integer n)) = some (integer n) := scalar?_writeInteger n
      rw [none] at reads
      contradiction
    · rcases writeInteger_characters n c member with rfl | digit
      · decide
      · exact isWordCharacter_of_isDigit digit
  | string t => simpa [write, tokensOf] using (LexesUpTo.string t .nil).value
  | array _ ih => exact (LexesUpTo.mark rfl (lexes_writeItems ih)).value
  | object named _ ih => exact (LexesUpTo.mark rfl (lexes_writeMembers named ih)).value

end Lexing

namespace Reader

def ReadsAs (tokens : List JsonToken) (value : Json) : Prop :=
  ∀ frames, Runs step? (.value frames) tokens (.after value frames)

theorem tokensOf_begins (value : Json) :
    ∃ token more, tokensOf value = token :: more ∧
      ∀ frames, step? (.itemOrEnd frames) token = step? (.value (.items [] :: frames)) token := by
  cases value <;> exact ⟨_, _, rfl, fun _ => rfl⟩

theorem runs_itemOrEnd {item : Json} {items : List Json} {frames : List Frame} {after : Reader}
    (runs : Runs step? (.value (.items [] :: frames)) (tokensOfItems (item :: items)) after) :
    Runs step? (.itemOrEnd frames) (tokensOfItems (item :: items)) after := by
  obtain ⟨token, rest, opens, same⟩ := tokensOf_begins item
  obtain ⟨more, first⟩ : ∃ more, tokensOfItems (item :: items) = token :: more := by
    cases items <;> simp [tokensOfItems, opens]
  rw [first, Runs, List.foldlM_cons] at runs ⊢
  rwa [same]

theorem reads_items {item : Json} {items before : List Json} {frames : List Frame}
    (each : ∀ value ∈ item :: items, ReadsAs (tokensOf value) value) :
    Runs step? (.value (.items before :: frames)) (tokensOfItems (item :: items))
      (.after (.array (before.reverse ++ item :: items)) frames) := by
  induction items generalizing item before with
  | nil =>
    have first := each item (by simp) (.items before :: frames)
    simpa [tokensOfItems] using first.append (.one (by simp [step?]))
  | cons next items ih =>
    have first := each item (by simp) (.items before :: frames)
    have rest := @ih next (item :: before) fun value member => each value (by simp [member])
    simpa [tokensOfItems] using first.append (.cons rfl rest)

theorem reads_members {name : Option Text} {value : Json}
    {members before : List (Option Text × Json)} {frames : List Frame}
    (each : ∀ member ∈ (name, value) :: members, ReadsAs (tokensOf member.2) member.2) :
    Runs step? (.name before frames) (tokensOfMembers ((name, value) :: members))
      (.after (.object (before.reverse ++ (name, value) :: members)) frames) := by
  induction members generalizing name value before with
  | nil =>
    have first := each (name, value) (by simp) (.members before name :: frames)
    simpa [tokensOfMembers] using Runs.cons rfl (.cons rfl (first.append (.one (by simp [step?]))))
  | cons next members ih =>
    have first := each (name, value) (by simp) (.members before name :: frames)
    have rest := @ih next.1 next.2 ((name, value) :: before) fun member inside =>
      each member (by simp [inside])
    simpa [tokensOfMembers] using Runs.cons rfl (.cons rfl (first.append (.cons rfl rest)))

theorem reads_tokensOf {value : Json} (textual : Textual value) :
    ReadsAs (tokensOf value) value := by
  induction textual with
  | null => exact fun _ => .one rfl
  | bool b => exact fun _ => .one rfl
  | integer n => exact fun _ => .one rfl
  | string t => exact fun _ => .one rfl
  | @array items _ ih =>
    intro frames
    cases items with
    | nil => exact .cons rfl (.one rfl)
    | cons item items => exact .cons rfl (runs_itemOrEnd (reads_items ih))
  | @object members _ _ ih =>
    intro frames
    cases members with
    | nil => exact .cons rfl (.one rfl)
    | cons member members => exact .cons rfl (reads_members ih)

end Reader

theorem read?_write {value : Json} (textual : Textual value) :
    read? (write value) = some value := by
  obtain ⟨after, lexes, holds⟩ := lexes_write textual []
  have tokens : tokens? (write value) = some (tokensOf value) := by
    simp [tokens?, show (write value).foldlM Lexer.step? {} = some after from lexes, holds.tokens?]
  have reads : (tokensOf value).foldlM Reader.step? (.value []) = some (.after value []) :=
    Reader.reads_tokensOf textual []
  simp [read?, tokens, reads, Reader.result?]

end Json
end MediaNaming
