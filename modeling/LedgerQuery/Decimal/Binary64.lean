import LedgerQuery.Text.Character

/-!
# Numbers in exact arithmetic

Digits of whole numbers, the double nearest to a quotient, and amounts with two decimal places.
-/
namespace LedgerQuery.Decimal

/-! ## Decimal digits

Whole numbers as decimal text and back. A number of more than 4300 digits is neither read nor
written. -/

/-- The longest run of digits that is read or written as one number. -/
def digitLimit : Nat := 4300

def digits (n : Nat) : List Char :=
  Nat.toDigits 10 n

def ofInt : Int → List Char
  | .ofNat n => digits n
  | .negSucc n => '-' :: digits (n + 1)

def padZeros (width : Nat) (text : List Char) : List Char :=
  List.replicate (width - text.length) '0' ++ text

def padded (width n : Nat) : List Char :=
  padZeros width (digits n)

/-- The number that digits of any script stand for; other characters count as zero. -/
def value (text : List Char) : Nat :=
  text.foldl (fun n c => 10 * n + (Text.digitValue? c).getD 0) 0

inductive ReadFault where
  | tooManyDigits (count : Nat)
  | malformed
  deriving DecidableEq, Repr

def tooManyDigitsMessage (digitCount : Nat) : String :=
  "Exceeds the limit (4300 digits) for integer string conversion: value has " ++
    toString digitCount ++ " digits; use sys.set_int_max_str_digits() to increase the limit"

/-- Blank characters that may surround a number: those of `Text.isBlank` without the information
separators. -/
def isPadding (c : Char) : Bool :=
  let n := c.toNat
  (9 ≤ n && n ≤ 13) || n == 32 || n == 0x85 || n == 0xA0 || n == 0x1680 ||
  (0x2000 ≤ n && n ≤ 0x200A) || n == 0x2028 || n == 0x2029 || n == 0x202F || n == 0x205F ||
  n == 0x3000

/-- The digits of a run in which single underscores may stand between digits. -/
def ungroup? : List Char → Option (List Char)
  | [] => none
  | [c] => if Text.isDigit c then some [c] else none
  | c :: '_' :: cs => if Text.isDigit c then (ungroup? cs).map (c :: ·) else none
  | c :: cs => if Text.isDigit c then (ungroup? cs).map (c :: ·) else none

def readNat (text : List Char) : Except ReadFault Nat :=
  match ungroup? text with
  | none => .error .malformed
  | some ds => if ds.length > digitLimit then .error (.tooManyDigits ds.length) else .ok (value ds)

def readInt (text : List Char) : Except ReadFault Int :=
  let bare := ((text.dropWhile isPadding).reverse.dropWhile isPadding).reverse
  match bare with
  | '-' :: ds => (readNat ds).map fun n => -(n : Int)
  | '+' :: ds => (readNat ds).map fun n => (n : Int)
  | ds => (readNat ds).map fun n => (n : Int)

/-! ## Rounding a quotient

The nearest whole number to a quotient of natural numbers; a quotient halfway between two goes to
the even one. -/

/-- The whole number nearest to `num / den`, the even one of two equally near. -/
def roundHalfEven (num den : Nat) : Nat :=
  let quotient := num / den
  let rest := num % den
  if 2 * rest < den then quotient
  else if den < 2 * rest then quotient + 1
  else quotient + quotient % 2

/-! ## Binary floating point numbers of 64 bits

A finite double is a signed whole number times a power of two. `Binary64` names the two parts, so
that texts are made from a double, and doubles from texts, in exact arithmetic on natural numbers.
-/

/-- The value of a double. A finite one is `± mantissa * 2 ^ exponent`. -/
inductive Binary64 where
  | nan
  | infinite (negative : Bool)
  | finite (negative : Bool) (mantissa : Nat) (exponent : Int)
  deriving DecidableEq, Repr

namespace Binary64

def minExponent : Int := -1074

def maxExponent : Int := 971

def ofBits (bits : Nat) : Binary64 :=
  let negative := Nat.pow 2 63 ≤ bits
  let field : Nat := bits / Nat.pow 2 52 % 2048
  let fraction := bits % Nat.pow 2 52
  if field = 2047 then (if fraction = 0 then .infinite negative else .nan)
  else if field = 0 then .finite negative fraction minExponent
  else .finite negative (Nat.pow 2 52 + fraction) ((field : Int) + (minExponent - 1))

def ofFloat (x : Float) : Binary64 :=
  ofBits x.toBits.toNat

/-- Writes the three fields; a mantissa below `2 ^ 52` is taken at the smallest exponent. -/
def toBits : Binary64 → Nat
  | .nan => 2047 * Nat.pow 2 52 + Nat.pow 2 51
  | .infinite negative => (if negative then Nat.pow 2 63 else 0) + 2047 * Nat.pow 2 52
  | .finite negative mantissa exponent =>
    (if negative then Nat.pow 2 63 else 0) +
      (if mantissa < Nat.pow 2 52 then mantissa
       else (exponent - (minExponent - 1)).toNat * Nat.pow 2 52 + (mantissa - Nat.pow 2 52))

def toFloat (x : Binary64) : Float :=
  Float.ofBits x.toBits.toUInt64

def fraction (mantissa : Nat) (exponent : Int) : Nat × Nat :=
  (mantissa * Nat.pow 2 exponent.toNat, Nat.pow 2 (-exponent).toNat)

/-- The exponent at which the quotient has a mantissa of 53 bits, or the smallest exponent. -/
def exponentFor (num den : Nat) : Int :=
  let guess := max ((num.log2 : Int) - den.log2 - 53) minExponent
  let scaled := (num * Nat.pow 2 (-guess).toNat) / (den * Nat.pow 2 guess.toNat)
  if scaled < Nat.pow 2 53 then guess else guess + 1

def nearest (negative : Bool) (num den : Nat) : Binary64 :=
  let exponent := exponentFor num den
  let mantissa := roundHalfEven (num * Nat.pow 2 (-exponent).toNat) (den * Nat.pow 2 exponent.toNat)
  let carried := if mantissa = Nat.pow 2 53 then Nat.pow 2 52 else mantissa
  let exponent := if mantissa = Nat.pow 2 53 then exponent + 1 else exponent
  if maxExponent < exponent then .infinite negative else .finite negative carried exponent

/-- The double nearest to `± num * 10 ^ power`. Powers far outside the range of doubles are not
computed: their result is an infinity or a zero. -/
def ofDecimal (negative : Bool) (num : Nat) (power : Int) : Binary64 :=
  if num = 0 then .finite negative 0 minExponent
  else if 400 < power then .infinite negative
  else if power + (num.log2 : Int) < -1200 then .finite negative 0 minExponent
  else nearest negative (num * Nat.pow 10 power.toNat) (Nat.pow 10 (-power).toNat)

def ofInt? (n : Int) : Option Binary64 :=
  match nearest (n < 0) n.natAbs 1 with
  | .infinite _ => none
  | x => some x

def isNegative : Binary64 → Bool
  | .nan => false
  | .infinite negative => negative
  | .finite negative mantissa _ => negative && mantissa ≠ 0

def isPositive : Binary64 → Bool
  | .nan => false
  | .infinite negative => !negative
  | .finite negative mantissa _ => !negative && mantissa ≠ 0

end Binary64

/-! ## Two decimal places

An amount is written with two decimal places, a half going to the even neighbour of the exact
binary value. With grouping, commas part the integer digits into threes counted from the point. -/

def cents (mantissa : Nat) (exponent : Int) : Nat :=
  let (num, den) := Binary64.fraction mantissa exponent
  roundHalfEven (num * 100) den

def groupThrees : List Char → List Char
  | [] => []
  | c :: cs =>
    if cs.length % 3 = 0 && !cs.isEmpty then c :: ',' :: groupThrees cs
    else c :: groupThrees cs

def centsText (grouped : Bool) (hundredths : Nat) : List Char :=
  let units := digits (hundredths / 100)
  (if grouped then groupThrees units else units) ++ '.' :: padded 2 (hundredths % 100)

/-- A double with two decimal places; the sign is that of the double, also before a zero. -/
def twoPlaces : Binary64 → List Char
  | .nan => ['n', 'a', 'n']
  | .infinite negative => (if negative then ['-'] else []) ++ ['i', 'n', 'f']
  | .finite negative mantissa exponent =>
    (if negative then ['-'] else []) ++ centsText false (cents mantissa exponent)

def roundToCents : Binary64 → Binary64
  | .finite negative mantissa exponent => .nearest negative (cents mantissa exponent) 100
  | x => x

def groupedSize : Binary64 → List Char
  | .nan => ['n', 'a', 'n']
  | .infinite _ => ['i', 'n', 'f']
  | .finite _ mantissa exponent => centsText true (cents mantissa exponent)

end LedgerQuery.Decimal
