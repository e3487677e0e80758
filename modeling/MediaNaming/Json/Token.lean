import MediaNaming.Json.Value

/-
Tokens of a JSON text, read character by character. Between strings the text falls into marks,
blanks and words; a word is a number or one of three names, and anything else is refused.
-/
namespace MediaNaming

inductive JsonToken where
  | openArray
  | closeArray
  | openObject
  | closeObject
  | comma
  | colon
  | string (text : Option Text)
  | scalar (value : Json)

namespace Json

def afterFraction? : Text → Option Text
  | '.' :: rest =>
    if rest.takeWhile Char.isDigit = [] then none else some (rest.dropWhile Char.isDigit)
  | t => some t

def withoutSign : Text → Text
  | '+' :: rest => rest
  | '-' :: rest => rest
  | t => t

def afterExponent? : Text → Option Text
  | [] => some []
  | c :: rest =>
    if c = 'e' ∨ c = 'E' then
      let digits := withoutSign rest
      if digits.takeWhile Char.isDigit = [] then none else some (digits.dropWhile Char.isDigit)
    else some (c :: rest)

def number? (written : Text) : Option Json :=
  let negative := written.head? = some '-'
  let body := if negative then written.tail else written
  let whole := body.takeWhile Char.isDigit
  let after := body.dropWhile Char.isDigit
  if whole = [] ∨ (whole.head? = some '0' ∧ whole ≠ ['0']) then none
  else
    match (afterFraction? after).bind afterExponent? with
    | some [] =>
      let value := Text.decimalValue whole
      if after ≠ [] ∨ (negative ∧ value = 0) then some (real written)
      else some (integer (if negative then -value else value))
    | _ => none

def scalar? (word : Text) : Option Json :=
  if word = "null".toList then some null
  else if word = "true".toList then some (bool true)
  else if word = "false".toList then some (bool false)
  else number? word

/-- The text of code units, where a pair of surrogates makes one character. -/
def textOfUnits? : List Nat → Option Text
  | [] => some []
  | high :: low :: rest =>
    if 0xD800 ≤ high ∧ high ≤ 0xDBFF ∧ 0xDC00 ≤ low ∧ low ≤ 0xDFFF then
      (textOfUnits? rest).map
        (Char.ofNat (0x10000 + (high - 0xD800) * 0x400 + (low - 0xDC00)) :: ·)
    else if 0xD800 ≤ high ∧ high ≤ 0xDFFF then none
    else (textOfUnits? (low :: rest)).map (Char.ofNat high :: ·)
  | [unit] => if 0xD800 ≤ unit ∧ unit ≤ 0xDFFF then none else some [Char.ofNat unit]

def hexValue? (c : Char) : Option Nat :=
  if c.isDigit then some (c.toNat - '0'.toNat)
  else if 'a' ≤ c ∧ c ≤ 'f' then some (c.toNat - 'a'.toNat + 10)
  else if 'A' ≤ c ∧ c ≤ 'F' then some (c.toNat - 'A'.toNat + 10)
  else none

def shortEscape? (c : Char) : Option Nat :=
  [('"', 0x22), ('\\', 0x5C), ('/', 0x2F), ('b', 8), ('f', 0xC), ('n', 0xA), ('r', 0xD),
    ('t', 9)].lookup c

def mark? (c : Char) : Option JsonToken :=
  if c = '[' then some .openArray
  else if c = ']' then some .closeArray
  else if c = '\x7b' then some .openObject
  else if c = '\x7d' then some .closeObject
  else if c = ',' then some .comma
  else if c = ':' then some .colon
  else none

def isJsonBlank (c : Char) : Bool := c == ' ' || c == '\n' || c == '\t' || c == '\r'

/-- Where a reader of tokens stands. What it has collected is kept last first. -/
inductive LexerMode where
  | between
  | word (characters : Text)
  | quoted (units : List Nat)
  | escape (units : List Nat)
  | code (units : List Nat) (missing : Nat) (value : Nat)

structure Lexer where
  tokens : List JsonToken := []
  mode : LexerMode := .between

namespace Lexer

def fresh (tokens : List JsonToken) (c : Char) : Lexer :=
  match mark? c with
  | some token => ⟨token :: tokens, .between⟩
  | none =>
    if isJsonBlank c then ⟨tokens, .between⟩
    else if c = '"' then ⟨tokens, .quoted []⟩
    else ⟨tokens, .word [c]⟩

def step? (lexer : Lexer) (c : Char) : Option Lexer :=
  match lexer.mode with
  | .between => some (fresh lexer.tokens c)
  | .word characters =>
    if (mark? c).isSome ∨ isJsonBlank c ∨ c = '"' then
      (scalar? characters.reverse).map fun value => fresh (.scalar value :: lexer.tokens) c
    else some { lexer with mode := .word (c :: characters) }
  | .quoted units =>
    if c = '"' then some ⟨.string (textOfUnits? units.reverse) :: lexer.tokens, .between⟩
    else if c = '\\' then some { lexer with mode := .escape units }
    else if c.toNat < 0x20 then none
    else some { lexer with mode := .quoted (c.toNat :: units) }
  | .escape units =>
    if c = 'u' then some { lexer with mode := .code units 3 0 }
    else (shortEscape? c).map fun unit => { lexer with mode := .quoted (unit :: units) }
  | .code units 0 value =>
    (hexValue? c).map fun digit => { lexer with mode := .quoted ((16 * value + digit) :: units) }
  | .code units (missing + 1) value =>
    (hexValue? c).map fun digit => { lexer with mode := .code units missing (16 * value + digit) }

def tokens? (lexer : Lexer) : Option (List JsonToken) :=
  match lexer.mode with
  | .between => some lexer.tokens.reverse
  | .word characters =>
    (scalar? characters.reverse).map fun value => (.scalar value :: lexer.tokens).reverse
  | _ => none

end Lexer

def tokens? (t : Text) : Option (List JsonToken) := (t.foldlM Lexer.step? {}).bind Lexer.tokens?

end Json
end MediaNaming
