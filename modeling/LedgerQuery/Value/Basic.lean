import LedgerQuery.Calendar.DateTime
import LedgerQuery.Dictionary

/-!
# Transactions and values

The entries of a ledger, the keys that group them, and the values that a query makes of them.
-/
namespace LedgerQuery

/-! ## Transactions

One entry of the ledger. Its tags are distinct and stand in the order in which they were first
given; tags that differ in case are different. -/

structure Transaction where
  hash : String
  account : String
  date : Date
  amount : Float
  description : String
  checkNumber : Option Int := none
  kind : Option String := none
  runningBalance : Option String := none
  postDate : Option Date := none
  tags : List String := []
  tags_nodup : tags.Nodup := by simp
  deriving DecidableEq

namespace Transaction

def withTags (transaction : Transaction) (tags : List String) : Transaction :=
  { transaction with tags := distinct tags, tags_nodup := nodup_distinct tags }

def hasAnyTag (transaction : Transaction) (tags : List String) : Bool :=
  transaction.tags.any (tags.contains ·)

def hasNoneOf (transaction : Transaction) (tags : List String) : Bool :=
  transaction.tags.all (!tags.contains ·)

end Transaction

/-! ## Keys of groups

Transactions are grouped by calendar month or by calendar year. Keys of one kind are ordered in
time; a month and a year do not compare. -/

inductive KeyKind where
  | month
  | year
  deriving DecidableEq, Repr

def KeyKind.name : KeyKind → String
  | .month => "MonthYear"
  | .year => "Year"

inductive GroupKey where
  | month (year : Int) (month : Month)
  | year (year : Int)
  deriving DecidableEq, Repr

namespace GroupKey

def kind : GroupKey → KeyKind
  | .month _ _ => .month
  | .year _ => .year

def yearNumber : GroupKey → Int
  | .month y _ => y
  | .year y => y

def monthNumber : GroupKey → Nat
  | .month _ m => m.number
  | .year _ => 0

def monthOf (date : Date) : GroupKey :=
  .month date.year date.month

def yearOf (date : Date) : GroupKey :=
  .year date.year

def before (a b : GroupKey) : Bool :=
  a.yearNumber < b.yearNumber || (a.yearNumber = b.yearNumber && a.monthNumber < b.monthNumber)

def notAfter (a b : GroupKey) : Bool :=
  !b.before a

/-- A signed number with zeros in front, the sign counted in the width. -/
def signedPadded (width : Nat) (n : Int) : List Char :=
  if n < 0 then '-' :: Decimal.padded (width - 1) n.natAbs else Decimal.padded width n.natAbs

/-- A month is written with the last two digits of its year, a year with at least four. -/
def text : GroupKey → List Char
  | .month y m => Decimal.digits m.number ++ '/' :: Decimal.padded 2 (y % 100).toNat
  | .year y => signedPadded 4 y

end GroupKey

/-! ## Values

What a query works on: a number, transactions in order, groups of transactions or of numbers under
their keys, or the empty collection, which has no type of item. A number is whole where it counts
and a double where it is money. A foreign value is none of these; every command refuses it. -/

inductive Number where
  | int (n : Int)
  | float (x : Float)
  deriving DecidableEq

abbrev Groups (α : Type) := List (GroupKey × α)

/-- What a query works on. Without groups it does not matter what groups would hold: such a value
is `groupedNumbers []`. -/
inductive Value where
  | number (n : Number)
  | transactions (items : List Transaction)
  | groupedTransactions (groups : Groups (List Transaction))
  | groupedNumbers (groups : Groups Number)
  | empty
  | foreign (kind : String)
  deriving DecidableEq

namespace Value

def ofTransactions (items : List Transaction) : Value :=
  if items.isEmpty then .empty else .transactions items

def ofTransactionGroups (groups : Groups (List Transaction)) : Value :=
  if groups.isEmpty then .empty else .groupedTransactions groups

def ofNumberGroups (groups : Groups Number) : Value :=
  if groups.isEmpty then .empty else .groupedNumbers groups

def size? : Value → Option Nat
  | .transactions items => some items.length
  | .groupedTransactions groups => some groups.length
  | .groupedNumbers groups => some groups.length
  | _ => none

def holdsTransactions : Value → Bool
  | .groupedTransactions _ => true
  | _ => false

def kindName : Value → String
  | .number _ => "Number"
  | .transactions _ => "TransactionList"
  | .groupedTransactions _ => "GroupedList"
  | .groupedNumbers _ => "GroupedList"
  | .empty => "Empty"
  | .foreign kind => kind

end Value

/-! ## Descriptors

The structure of a value as it is shown below a rendered value and in refusals. Groups are
described by the first of them. -/

inductive Descriptor where
  | integer
  | float
  | transactions
  | empty
  | grouped (key : KeyKind) (inner : Descriptor)
  | foreign (kind : String)
  deriving DecidableEq, Repr

def Descriptor.text : Descriptor → String
  | .integer => "Integer"
  | .float => "Float"
  | .transactions => "[Transaction]"
  | .empty => "[]"
  | .grouped key inner => "[[" ++ key.name ++ ", " ++ inner.text ++ "]]"
  | .foreign kind => kind

def Number.descriptor : Number → Descriptor
  | .int _ => .integer
  | .float _ => .float

/-- The structure of a value; groups without a first one have none. -/
def Value.descriptor? : Value → Option Descriptor
  | .number n => some n.descriptor
  | .transactions _ => some .transactions
  | .groupedTransactions [] => none
  | .groupedTransactions ((key, _) :: _) => some (.grouped key.kind .transactions)
  | .groupedNumbers [] => none
  | .groupedNumbers ((key, n) :: _) => some (.grouped key.kind n.descriptor)
  | .empty => some .empty
  | .foreign kind => some (.foreign kind)

end LedgerQuery
