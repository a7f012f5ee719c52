import QueryShapes.Number.Reading
import QueryShapes.Text.Blank
import QueryShapes.Text.Cut

/-!
# Internet addresses in URLs

- `Ipv6.ofText?`: eight groups of hexadecimal digits, of which one run of zeros may be left out and
  the last two may be written as an address of version 4.
- `Ipv6.text`: lower case, without leading zeros, with the first longest run of two or more zero
  groups left out.
- `Ipv4.isNumeric`, `Ipv4.isAddress`: which names have to be addresses of version 4, and which are.
-/

namespace QueryShapes.Url

namespace Ipv6

/-- A group of one to four hexadecimal digits. -/
def group? (text : List Char) : Option Nat :=
  let isHex := fun c : Char => c.isDigit || ('a' ≤ c && c ≤ 'f') || ('A' ≤ c && c ≤ 'F')
  let digit := fun c : Char =>
    if c.isDigit then c.toNat - '0'.toNat else c.toLower.toNat - 'a'.toNat + 10
  if text.all isHex && !text.isEmpty && text.length ≤ 4 then
    some (text.foldl (fun n c => 16 * n + digit c) 0)
  else none

/-- A number up to 255 without leading zeros. -/
def octet? (text : List Char) : Option Nat :=
  if text.head? = some '0' ∧ text.length ≠ 1 then none
  else (natural? text).filter (· ≤ 255)

/-- The two groups of a dotted address. -/
def dotted? (text : List Char) : Option (List Nat) := do
  match ← (Text.splitOn (· = '.') text).mapM octet? with
  | [a, b, c, d] => return [256 * a + b, 256 * c + d]
  | _ => none

/-- The groups between colons, the last of which may be a dotted address. -/
def groupsOf? (dottedLast : Bool) : List (List Char) → Option (List Nat)
  | [] => some []
  | [last] =>
    match group? last with
    | some n => some [n]
    | none => if dottedLast then dotted? last else none
  | first :: rest => do return (← group? first) :: (← groupsOf? dottedLast rest)

def groups? (dottedLast : Bool) (text : List Char) : Option (List Nat) :=
  if text.isEmpty then some [] else groupsOf? dottedLast (Text.splitOn (· = ':') text)

/-- The texts before and after the first two colons in a row. -/
def cutAtGap? : List Char → Option (List Char × List Char)
  | ':' :: ':' :: rest => some ([], rest)
  | c :: rest => (cutAtGap? rest).map fun (before, after) => (c :: before, after)
  | [] => none

/-- The eight groups of an address. -/
def ofText? (text : List Char) : Option (List Nat) :=
  match cutAtGap? text with
  | some (before, after) => do
    let high ← groups? false before
    let low ← groups? true after
    if high.length + low.length ≤ 7 then
      return high ++ List.replicate (8 - high.length - low.length) 0 ++ low
    else none
  | none => (groups? true text).filter (·.length = 8)

/-- The length of the run of zeros at each position. -/
def zeroRuns : List Nat → List Nat
  | [] => []
  | n :: rest =>
    let runs := zeroRuns rest
    (if n = 0 then (runs.head?.getD 0) + 1 else 0) :: runs

def groupText (n : Nat) : List Char := Nat.toDigits 16 n

def colons (groups : List Nat) : List Char := List.intercalate [':'] (groups.map groupText)

/-- The groups as text, with a gap for the first longest run of zeros. -/
def text (groups : List Nat) : List Char :=
  let runs := zeroRuns groups
  let longest := runs.foldl max 0
  if longest < 2 then colons groups
  else
    let start := runs.idxOf longest
    colons (groups.take start) ++ [':', ':'] ++ colons (groups.drop (start + longest))

end Ipv6

namespace Ipv4

/-- A number in decimal, in octal after a zero or in hexadecimal after `0x`. -/
def number? (text : List Char) : Option Nat :=
  let digits := fun (base : Nat) (ds : List Char) =>
    ds.foldlM (fun n c =>
      let d := if c.isDigit then c.toNat - '0'.toNat
        else if c.isAlpha then c.toLower.toNat - 'a'.toNat + 10 else base
      if d < base then some (base * n + d) else none) 0
  match text with
  | [] => none
  | '0' :: 'x' :: rest | '0' :: 'X' :: rest => digits 16 rest
  | '0' :: c :: rest => digits 8 (c :: rest)
  | _ => digits 10 text

/-- The parts of a name, of which an empty last one does not count. -/
def parts (name : List Char) : List (List Char) :=
  let all := Text.splitOn (· = '.') name
  if all.length > 1 && all.getLast? == some [] then all.dropLast else all

/-- The name ends in a number, so that it has to be an address. -/
def isNumeric (name : List Char) : Bool :=
  match (parts name).getLast? with
  | some last => (!last.isEmpty && last.all Char.isDigit) || (number? last).isSome
  | none => false

/-- Up to four numbers, of which all but the last are bytes and the last fills the rest. -/
def isAddress (name : List Char) : Bool :=
  let ps := parts name
  match ps.mapM number? with
  | some numbers =>
    ps.length ≤ 4 && numbers.dropLast.all (· ≤ 255) &&
      numbers.getLast?.any (· < Nat.pow 256 (5 - numbers.length))
  | none => false

end Ipv4

end QueryShapes.Url
