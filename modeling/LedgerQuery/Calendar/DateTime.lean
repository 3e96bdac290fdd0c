import LedgerQuery.Decimal.Binary64
import LedgerQuery.Text.Character

/-!
# The calendar

Days of the years 1 to 9999, and days that are given with a time of day.
-/
namespace LedgerQuery

/-! ## Dates

A date names a day of the years 1 to 9999. It is written as year, month and day with four, two and
two digits, and it can be counted from the first day of 1970. -/

structure Month where
  number : Nat
  inYear : 1 ≤ number ∧ number ≤ 12
  deriving DecidableEq, Repr

def Month.of? (number : Nat) : Option Month :=
  if h : 1 ≤ number ∧ number ≤ 12 then some ⟨number, h⟩ else none

def isLeapYear (year : Nat) : Bool :=
  year % 4 = 0 && (year % 100 ≠ 0 || year % 400 = 0)

def Month.days (month : Month) (year : Nat) : Nat :=
  if month.number = 2 then (if isLeapYear year then 29 else 28)
  else if [4, 6, 9, 11].contains month.number then 30
  else 31

structure Date where
  year : Nat
  month : Month
  day : Nat
  valid : 1 ≤ year ∧ year ≤ 9999 ∧ 1 ≤ day ∧ day ≤ month.days year
  deriving DecidableEq, Repr

namespace Date

def of? (year month day : Nat) : Option Date :=
  match Month.of? month with
  | none => none
  | some month =>
    if h : 1 ≤ year ∧ year ≤ 9999 ∧ 1 ≤ day ∧ day ≤ month.days year then
      some ⟨year, month, day, h⟩
    else none

def isoText (date : Date) : List Char :=
  Decimal.padded 4 date.year ++ '-' :: Decimal.padded 2 date.month.number ++
    '-' :: Decimal.padded 2 date.day

def numberOf? (digits : List Char) : Option Nat :=
  if digits.all Text.isAsciiDigit then some (Decimal.value digits) else none

def numbersOfIso? (text : List Char) : Option (Nat × Nat × Nat) :=
  match text with
  | [y₁, y₂, y₃, y₄, '-', m₁, m₂, '-', d₁, d₂] => do
    some (← numberOf? [y₁, y₂, y₃, y₄], ← numberOf? [m₁, m₂], ← numberOf? [d₁, d₂])
  | _ => none

def ofIso? (text : List Char) : Option Date := do
  let (year, month, day) ← numbersOfIso? text
  of? year month day

def epochFromMarch : Int := 719468

/-- The date that many days after the first of January 1970. Years are taken to begin in March, so
that a leap day is the last of its year; 400 years have 146097 days. -/
def ofDayCount? (count : Int) : Option Date :=
  let days := count + epochFromMarch
  let era := days / 146097
  let ofEra := (days % 146097).toNat
  let yearOfEra := (ofEra - ofEra / 1460 + ofEra / 36524 - ofEra / 146096) / 365
  let ofYear := ofEra - (365 * yearOfEra + yearOfEra / 4 - yearOfEra / 100)
  let marchMonth := (5 * ofYear + 2) / 153
  let day := ofYear - (153 * marchMonth + 2) / 5 + 1
  let month := if marchMonth < 10 then marchMonth + 3 else marchMonth - 9
  let year := era * 400 + yearOfEra + (if month ≤ 2 then 1 else 0)
  if year < 1 then none else of? year.toNat month day

end Date

/-! ## Dates with a time of day

A date can come with a time, as text or as a time counted from the first of January 1970. Such a
date counts only if the time is midnight. Counts are of seconds, or of thousandths of a second if
they are large. -/

inductive DateTimeFault where
  | unreadable
  | notMidnight
  | outOfCalendar
  deriving DecidableEq, Repr

namespace DateTime
open Text

/-- The date with these numbers; the year 0 is read, but the calendar does not have it. -/
def dateOf (year month day : Nat) : Except DateTimeFault Date :=
  match Month.of? month with
  | none => .error .unreadable
  | some m =>
    if day = 0 || m.days year < day then .error .unreadable
    else match Date.of? year month day with
      | some date => .ok date
      | none => .error .outOfCalendar

def twoDigits? (limit : Nat) : List Char → Option (Nat × List Char)
  | a :: b :: rest =>
    if isAsciiDigit a && isAsciiDigit b && Decimal.value [a, b] < limit then
      some (Decimal.value [a, b], rest)
    else none
  | _ => none

/-- The digits of a fraction of a second after a point or a comma, of which six count. -/
def fraction? : List Char → Option (Nat × List Char)
  | c :: rest =>
    if c = '.' || c = ',' then
      let ds := rest.takeWhile isAsciiDigit
      if ds.isEmpty then none else some (Decimal.value (ds.take 6), rest.dropWhile isAsciiDigit)
    else some (0, c :: rest)
  | [] => some (0, [])

def seconds? : List Char → Option (Nat × List Char)
  | ':' :: rest => do
    let (seconds, rest) ← twoDigits? 60 rest
    let (fraction, rest) ← fraction? rest
    some (seconds + fraction, rest)
  | rest => some (0, rest)

def isOffset : List Char → Bool
  | [] => true
  | [c] => c = 'Z' || c = 'z'
  | sign :: rest =>
    (sign = '+' || sign = '-' || sign = '\u2212') &&
      match twoDigits? 24 rest with
      | none => false
      | some (_, rest) =>
        let rest := match rest with
          | ':' :: rest => rest
          | rest => rest
        match twoDigits? 60 rest with
        | some (_, []) => true
        | _ => false

def isMidnight? (text : List Char) : Option Bool := do
  let (hours, rest) ← twoDigits? 24 text
  let ':' :: rest := rest | none
  let (minutes, rest) ← twoDigits? 60 rest
  let (seconds, rest) ← seconds? rest
  if isOffset rest then some (hours = 0 && minutes = 0 && seconds = 0) else none

def ofText? (text : List Char) : Option (Except DateTimeFault Date) := do
  let (year, month, day) ← Date.numbersOfIso? (text.take 10)
  let mark :: time := text.drop 10 | none
  let midnight ← isMidnight? time
  if ['T', 't', ' ', '_'].contains mark then
    match dateOf year month day with
    | .error .unreadable => none
    | date => some (if midnight then date else .error .notMidnight)
  else none

/-- Counts above this size are of thousandths of a second. -/
def secondsLimit : Nat := 20000000000

def firstSecond : Int := -62167219200

def lastSecond : Int := 253402300799

structure Instant where
  seconds : Int
  millionths : Nat

def instant (count : Int) (millionths : Nat) : Instant :=
  let (seconds, total) :=
    if count.natAbs ≤ secondsLimit then (count, millionths)
    else (count / 1000, (count % 1000).toNat * 1000 + millionths)
  ⟨seconds + (total / 1000000 : Nat), total % 1000000⟩

def ofInstant (i : Instant) : Except DateTimeFault Date :=
  if i.seconds < firstSecond || lastSecond < i.seconds then .error .unreadable
  else if i.seconds % 86400 ≠ 0 || i.millionths ≠ 0 then .error .notMidnight
  else match Date.ofDayCount? (i.seconds / 86400) with
    | some date => .ok date
    | none => .error .outOfCalendar

/-- The date that a count of whole seconds is; thousandths that are no whole second are dropped. -/
def ofCount? (count : Int) : Option (Except DateTimeFault Date) :=
  let seconds := (instant count 0).seconds
  match ofInstant ⟨seconds, 0⟩ with
  | .error .unreadable => none
  | .error .notMidnight => none
  | result => some result

def countLimit : Nat := Nat.pow 2 63

def ofDouble (x : Decimal.Binary64) : Except DateTimeFault Date :=
  match x with
  | .finite negative mantissa exponent =>
    let (num, den) := Decimal.Binary64.fraction mantissa exponent
    let signed : Int := if negative then -(num : Int) else num
    let rest := num % den
    let millionths := (2 * rest * 1000000 + den) / (2 * den)
    ofInstant (instant (signed / den) millionths)
  | _ => .error .unreadable

def decimal? (text : List Char) : Option (Bool × List Char × Option (List Char)) :=
  let (negative, text) := match text with
    | '-' :: rest => (true, rest)
    | '+' :: rest => (false, rest)
    | _ => (false, text)
  let whole := text.takeWhile isAsciiDigit
  match text.dropWhile isAsciiDigit with
  | [] => if whole.isEmpty then none else some (negative, whole, none)
  | '.' :: fraction =>
    if fraction.all isAsciiDigit && !(whole.isEmpty && fraction.isEmpty) then
      some (negative, whole, some fraction)
    else none
  | _ => none

def count? (text : List Char) : Option Int :=
  match decimal? text with
  | some (negative, whole, none) =>
    let n := Decimal.value whole
    if n < countLimit then some (if negative then -(n : Int) else n) else none
  | _ => none

def ofDecimal (text : List Char) : Except DateTimeFault Date :=
  match decimal? text with
  | some (negative, whole, some fraction) =>
    ofDouble (.ofDecimal negative (Decimal.value (whole ++ fraction)) (-(fraction.length : Int)))
  | _ => .error .unreadable

def ofText (text : List Char) : Except DateTimeFault Date :=
  let plain := match Date.numbersOfIso? text with
    | some (year, month, day) => dateOf year month day
    | none => .error .unreadable
  match plain with
  | .error .unreadable =>
    match count? text with
    | some count =>
      match ofCount? count with
      | some result => result
      | none => ofInstant (instant count 0)
    | none =>
      match ofText? text with
      | some result => result
      | none => ofDecimal text
  | result => result

def ofInt? (n : Int) : Option (Except DateTimeFault Date) :=
  if n.natAbs < countLimit then some (ofInstant (instant n 0))
  else (Decimal.Binary64.ofInt? n).map ofDouble

end DateTime

end LedgerQuery
