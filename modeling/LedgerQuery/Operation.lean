import LedgerQuery.Decimal.Binary64
import LedgerQuery.Failure
import LedgerQuery.Pattern.Expr
import LedgerQuery.Pattern.Read
import LedgerQuery.Query.Syntax

/-!
# Operations

What the commands that take a value make of it, but for grouping. Each refuses values of a structure
that it does not take.
-/
namespace LedgerQuery.Operation

/-! ## Selection

Transactions are selected by their description or by their tags. A transaction is kept by tags if
it carries one that is asked for, or if some tags are excluded and it carries none of these; the
two conditions are joined by "or". -/

def select (test : Transaction → Bool) (items : List Transaction) : Value :=
  .ofTransactions (items.filter test)

/-- Transactions whose description the pattern matches somewhere, without regard to case. -/
def search (pattern : String) : Value → Except Failure Value
  | .transactions items =>
    match Pattern.read pattern.toList with
    | .ok found => .ok (select (fun t => found.occursIn t.description) items)
    | .error fault => .error (.breakdown (.pattern fault))
  | value => value.mismatch "search"

def keepsTags (included excluded : List String) (t : Transaction) : Bool :=
  (!included.isEmpty && t.hasAnyTag included) || (!excluded.isEmpty && t.hasNoneOf excluded)

/-- Transactions with an included tag, and those without any of the excluded tags. -/
def tagFilter (included excluded : List String) : Value → Except Failure Value
  | .transactions items => .ok (select (keepsTags included excluded) items)
  | value => value.mismatch "tag_filter"

def includedTags (matchers : List TagMatcher) : List String :=
  (matchers.filter (!·.negated)).map (·.name)

def excludedTags (matchers : List TagMatcher) : List String :=
  (matchers.filter (·.negated)).map (·.name)

def tags (matchers : List TagMatcher) : Value → Except Failure Value :=
  tagFilter (includedTags matchers) (excludedTags matchers)

/-! ## Ordering

The end of a collection, and a collection from its end to its beginning. Groups keep their keys. -/

def lastItems {α : Type} (n : Nat) (items : List α) : List α :=
  items.drop (items.length - n)

def last (n : Int) : Value → Except Failure Value
  | .empty => .ok .empty
  | value =>
    if n < 0 then .error (.breakdown .negativeCount)
    else match value with
      | .transactions items => .ok (.ofTransactions (lastItems n.toNat items))
      | .groupedTransactions groups => .ok (.ofTransactionGroups (lastItems n.toNat groups))
      | .groupedNumbers groups => .ok (.ofNumberGroups (lastItems n.toNat groups))
      | value => value.mismatch "last"

def reverse : Value → Except Failure Value
  | .empty => .ok .empty
  | .transactions items => .ok (.transactions items.reverse)
  | .groupedTransactions groups => .ok (.groupedTransactions groups.reverse)
  | .groupedNumbers groups => .ok (.groupedNumbers groups.reverse)
  | value => value.mismatch "reverse"

/-! ## Aggregation

Sums, averages and counts. On groups of transactions they work group by group; groups of numbers
are combined into one number. Doubles are added from left to right, beginning with zero. -/

def floatOfCount (n : Nat) : Float :=
  (Decimal.Binary64.nearest false n 1).toFloat

def toFloat : Number → Except Failure Float
  | .float x => .ok x
  | .int n =>
    match Decimal.Binary64.ofInt? n with
    | some x => .ok x.toFloat
    | none => .error (.breakdown .numberTooLargeForFloat)

def add : Number → Number → Except Failure Number
  | .int a, .int b => .ok (.int (a + b))
  | a, b => do return .float ((← toFloat a) + (← toFloat b))

/-- The sum of numbers from left to right; the sum of none is the whole number zero. -/
def sumNumbers (numbers : List Number) : Except Failure Number :=
  numbers.foldlM add (.int 0)

def sumFloats (xs : List Float) : Float :=
  xs.foldl (· + ·) 0.0

def amountTotal (items : List Transaction) : Float :=
  sumFloats (items.map (·.amount))

def averageAmount (items : List Transaction) : Except Failure Number :=
  if items.isEmpty then .error (.refusal (.noTransactions "avg"))
  else .ok (.float (amountTotal items / floatOfCount items.length))

def mapGroups {α β : Type} (f : α → β) (groups : Groups α) : Groups β :=
  groups.map fun (key, held) => (key, f held)

def mapGroupsM {α β : Type} (f : α → Except Failure β) (groups : Groups α) :
    Except Failure (Groups β) :=
  groups.mapM fun (key, held) => (f held).map (key, ·)

def averageNumbers (numbers : List Number) : Except Failure Number := do
  let xs ← numbers.mapM toFloat
  if xs.isEmpty then .error (.breakdown .divisionByZero)
  else return .float (sumFloats xs / floatOfCount xs.length)

def average : Value → Except Failure Value
  | .number n => (toFloat n).map fun x => .number (.float x)
  | .empty => .error (.refusal (.noTransactions "avg"))
  | .transactions items => (averageAmount items).map .number
  | .groupedTransactions groups => (mapGroupsM averageAmount groups).map .groupedNumbers
  | .groupedNumbers groups => (averageNumbers (groups.map Prod.snd)).map .number
  | value => value.mismatch "avg"

def total : Value → Except Failure Value
  | .number n => .ok (.number n)
  | .transactions items => .ok (.number (.float (amountTotal items)))
  | .groupedTransactions groups =>
    .ok (.groupedNumbers (mapGroups (fun items => .float (amountTotal items)) groups))
  | .groupedNumbers groups => (sumNumbers (groups.map Prod.snd)).map .number
  | value => value.mismatch "sum"

/-- Counts: of the transactions, of those in each group, or of groups of numbers. -/
def count : Value → Except Failure Value
  | .number _ => .ok (.number (.int 1))
  | .empty => .ok (.number (.int 0))
  | .transactions items => .ok (.number (.int items.length))
  | .groupedTransactions groups =>
    .ok (.groupedNumbers (mapGroups (fun items => .int items.length) groups))
  | .groupedNumbers groups => .ok (.number (.int groups.length))
  | value => value.mismatch "count"

end LedgerQuery.Operation
