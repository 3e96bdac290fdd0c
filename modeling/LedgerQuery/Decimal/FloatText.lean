import LedgerQuery.Decimal.Binary64
import LedgerQuery.Text.Case
import LedgerQuery.Text.Character

/-!
# The texts of a double

Writing a double so that it reads back as the same, and reading one.
-/
namespace LedgerQuery.Decimal

/-! ## The shortest decimal text of a double

Of all decimals that read back as a double the one with the fewest digits is written, and of those
the nearest. It stands in positional notation from a ten-thousandth up to ten to the sixteenth,
else with an exponent of at least two digits. -/

/-- The reals that round to `mantissa * 2 ^ exponent`, as quotients over one denominator. -/
structure RoundingInterval where
  low : Nat
  high : Nat
  den : Nat
  closed : Bool

/-- The interval reaches half way to the next double on each side; below a power of two the
doubles are twice as close. -/
def RoundingInterval.of (mantissa : Nat) (exponent : Int) : RoundingInterval :=
  let (unit, den) := Binary64.fraction 1 exponent
  let below := if mantissa = Nat.pow 2 52 && Binary64.minExponent < exponent then 1 else 2
  ⟨(4 * mantissa - below) * unit, (4 * mantissa + 2) * unit, 4 * den, mantissa % 2 = 0⟩

def RoundingInterval.has (interval : RoundingInterval) (significand : Nat) (power : Int) : Bool :=
  let point := significand * Nat.pow 10 power.toNat * interval.den
  let scale := Nat.pow 10 (-power).toNat
  if interval.closed then
    interval.low * scale ≤ point && point ≤ interval.high * scale
  else
    interval.low * scale < point && point < interval.high * scale

def leadingPower (num den : Nat) : Int :=
  if den ≤ num then (digits (num / den)).length - 1
  else
    let guess := (digits den).length - (digits num).length
    if den ≤ num * Nat.pow 10 guess then -(guess : Int) else -(guess + 1 : Int)

/-- The grid points of `power` on either side of `num / den` that round to the double: the nearer
one first. -/
def candidates (num den : Nat) (power : Int) : List Nat :=
  let scaledNum := num * Nat.pow 10 (-power).toNat
  let scaledDen := den * Nat.pow 10 power.toNat
  let lower := scaledNum / scaledDen
  let rest := scaledNum % scaledDen
  if 2 * rest < scaledDen || (2 * rest = scaledDen && lower % 2 = 0) then [lower, lower + 1]
  else [lower + 1, lower]

def shortestFrom (interval : RoundingInterval) (num den : Nat) (lead : Int) :
    (attempts count : Nat) → Nat × Int
  | 0, count =>
    let power := lead - count + 1
    ((candidates num den power).headD 0, power)
  | attempts + 1, count =>
    let power := lead - count + 1
    match (candidates num den power).find? (interval.has · power) with
    | some significand => (significand, power)
    | none => shortestFrom interval num den lead attempts (count + 1)

/-- The shortest decimal that reads back as `mantissa * 2 ^ exponent`, as significand and power of
ten; seventeen digits always do. -/
def shortest (mantissa : Nat) (exponent : Int) : Nat × Int :=
  let (num, den) := Binary64.fraction mantissa exponent
  shortestFrom (.of mantissa exponent) num den (leadingPower num den) 16 1

def writtenDecimal (ds : List Char) (power : Int) : List Char :=
  let lead := power + ds.length - 1
  if -4 ≤ lead ∧ lead < 16 then
    if 0 ≤ power then ds ++ List.replicate power.toNat '0' ++ ['.', '0']
    else if 0 ≤ lead then ds.take (lead.toNat + 1) ++ '.' :: ds.drop (lead.toNat + 1)
    else '0' :: '.' :: List.replicate (-lead - 1).toNat '0' ++ ds
  else
    let point := match ds with
      | [] => []
      | [d] => [d]
      | d :: rest => d :: '.' :: rest
    let sign := if lead < 0 then '-' else '+'
    point ++ 'e' :: sign :: padded 2 lead.natAbs

def dropTrailingZeros (significand : Nat) (power : Int) : List Char × Int :=
  let ds := digits significand
  let kept := (ds.reverse.dropWhile (· == '0')).reverse
  (kept, power + (ds.length - kept.length : Nat))

def shortestText : Binary64 → List Char
  | .nan => ['n', 'a', 'n']
  | .infinite negative => (if negative then ['-'] else []) ++ ['i', 'n', 'f']
  | .finite negative mantissa exponent =>
    (if negative then ['-'] else []) ++
      if mantissa = 0 then ['0', '.', '0']
      else
        let (significand, power) := shortest mantissa exponent
        let (ds, power) := dropTrailingZeros significand power
        writtenDecimal ds power

/-! ## Doubles as text

A double is written with a sign, digits with a point among them, and an exponent of ten; or it is
one of the words for infinity and for no number, in letters of either case. -/

open Text

def splitSign : List Char → Bool × List Char
  | '-' :: rest => (true, rest)
  | '+' :: rest => (false, rest)
  | text => (false, text)

def exponent? : List Char → Option Int
  | [] => some 0
  | c :: rest =>
    if c = 'e' || c = 'E' then
      let (negative, ds) := splitSign rest
      if ds.isEmpty || !ds.all isAsciiDigit then none
      else some (if negative then -(value ds : Int) else value ds)
    else none

def ofWord? (negative : Bool) (text : List Char) : Option Binary64 :=
  let word := text.map lowerChar
  if !text.all (·.toNat < 128) then none
  else if word = "inf".toList || word = "infinity".toList then some (.infinite negative)
  else if word = "nan".toList then some .nan
  else none

def floatOf? (text : List Char) : Option Binary64 :=
  let (negative, text) := splitSign text
  match ofWord? negative text with
  | some x => some x
  | none =>
    let whole := text.takeWhile isAsciiDigit
    let rest := text.dropWhile isAsciiDigit
    let afterPoint := match rest with
      | '.' :: rest => some rest
      | _ => none
    let fraction := (afterPoint.getD []).takeWhile isAsciiDigit
    let rest := match afterPoint with
      | some rest => rest.dropWhile isAsciiDigit
      | none => rest
    if whole.isEmpty && fraction.isEmpty then none
    else (exponent? rest).map fun power =>
      .ofDecimal negative (value (whole ++ fraction)) (power - fraction.length)

end LedgerQuery.Decimal
