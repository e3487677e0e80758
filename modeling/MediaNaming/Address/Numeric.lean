import MediaNaming.Text.Numeral

/-
Hosts written as numbers. Four bytes stand with dots between them, where the last number fills
the bytes that are left; eight groups of sixteen bits stand with colons between them, where one
gap takes the place of the zero groups.
-/
namespace MediaNaming

def digitValue? (base : Nat) (c : Char) : Option Nat :=
  let value :=
    if c.isDigit then c.toNat - '0'.toNat
    else if 'a' ≤ c ∧ c ≤ 'f' then c.toNat - 'a'.toNat + 10
    else if 'A' ≤ c ∧ c ≤ 'F' then c.toNat - 'A'.toNat + 10
    else base
  if value < base then some value else none

def valueIn? (base : Nat) (digits : Text) : Option Nat :=
  digits.foldlM (fun n c => (digitValue? base c).map (base * n + ·)) 0

namespace Ipv4

def part? : Text → Option Nat
  | [] => none
  | '0' :: 'x' :: digits => valueIn? 16 digits
  | '0' :: 'X' :: digits => valueIn? 16 digits
  | '0' :: c :: digits => valueIn? 8 (c :: digits)
  | c :: digits => valueIn? 10 (c :: digits)

/-- Each part but the last is one byte, and the last one fits the `room` that is left. -/
def combine? : Nat → List Nat → Option Nat
  | _, [] => none
  | room, [n] => if n < room then some n else none
  | room, n :: rest =>
    if n < 256 then (combine? (room / 256) rest).map (n * (room / 256) + ·) else none

def parts (name : Text) : List Text :=
  let parts := name.pieces (· == '.')
  if 1 < parts.length ∧ parts.getLast? = some [] then parts.dropLast else parts

def ofText? (name : Text) : Option Nat :=
  if (parts name).length ≤ 4 then ((parts name).mapM part?).bind (combine? 0x100000000) else none

/-- A name whose last part is a number is a numeric host or none at all. -/
def endsInNumber (name : Text) : Bool :=
  match (parts name).getLast? with
  | none => false
  | some last => (last != [] && last.all Char.isDigit) || (part? last).isSome

end Ipv4

namespace Ipv6

def group? (t : Text) : Option Nat := if t ≠ [] ∧ t.length ≤ 4 then valueIn? 16 t else none

def byte? (t : Text) : Option Nat :=
  if t = [] ∨ (t.head? = some '0' ∧ t ≠ ['0']) then none
  else (valueIn? 10 t).filter (· < 256)

def dotted? (t : Text) : Option (List Nat) :=
  match (t.pieces (· == '.')).mapM byte? with
  | some [a, b, c, d] => some [256 * a + b, 256 * c + d]
  | _ => none

/-- The groups of a run of pieces. The last piece may hold four bytes if the run `closes`. -/
def run? (closes : Bool) : List Text → Option (List Nat)
  | [] => some []
  | [last] =>
    match group? last with
    | some n => some [n]
    | none => if closes then dotted? last else none
  | piece :: rest => do
    let n ← group? piece
    return n :: (← run? closes rest)

def groups? (closes : Bool) (t : Text) : Option (List Nat) :=
  if t = [] then some [] else run? closes (t.pieces (· == ':'))

def splitGap? : Text → Option (Text × Text)
  | ':' :: ':' :: rest => some ([], rest)
  | c :: rest => (splitGap? rest).map fun p => (c :: p.1, p.2)
  | [] => none

def ofText? (t : Text) : Option (List Nat) :=
  match splitGap? t with
  | none => (groups? true t).filter (·.length == 8)
  | some (before, after) => do
    let before ← groups? false before
    let after ← groups? true after
    if before.length + after.length ≤ 7 then
      some (before ++ List.replicate (8 - before.length - after.length) 0 ++ after)
    else none

end Ipv6
end MediaNaming
