import LedgerQuery.Dictionary
import LedgerQuery.Failure

/-!
# Groups

Groups are built from parts that are given, or by collecting transactions under the keys of their
dates.
-/
namespace LedgerQuery

/-! ## Building groups

Groups made from parts that may not fit together: keys of two kinds cannot be sorted, and what the
groups hold must be transactions in all of them or numbers in all of them. -/

def GroupKey.month? (year month : Int) : Except Failure GroupKey :=
  match Month.of? month.toNat with
  | some m => .ok (.month year m)
  | none => .error (.breakdown (.monthOutOfRange month))

def GroupKey.before? (a b : GroupKey) : Except Failure Bool :=
  if a.kind = b.kind then .ok (a.before b) else .error (.breakdown (.mixedKeys a.kind b.kind))

/-- Pairs in ascending order of their keys, those of equal keys in the order given. The first key
of another kind than the first key of all is at fault. -/
def sortedByKey {α : Type} (pairs : Groups α) : Except Failure (Groups α) :=
  match pairs with
  | [] => .ok []
  | first :: others =>
    match others.find? (·.1.kind ≠ first.1.kind) with
    | some other => .error (.breakdown (.mixedKeys other.1.kind first.1.kind))
    | none => .ok (pairs.mergeSort fun a b => a.1.notAfter b.1)

namespace Value

def transactions? : Value → Option (List Transaction)
  | .transactions items => some items
  | _ => none

def number? : Value → Option Number
  | .number n => some n
  | _ => none

def ofGroups (groups : Groups Value) : Except Failure Value :=
  match groups.mapM fun (key, value) => value.number?.map (key, ·) with
  | some numbers => .ok (.groupedNumbers numbers)
  | none =>
    match groups.mapM fun (key, value) => value.transactions?.map (key, ·) with
    | some lists => .ok (.groupedTransactions lists)
    | none =>
      let kinds := distinct (groups.map (·.2.kindName))
      .error (.breakdown (.mixedGroups (kinds.mergeSort (· ≤ ·))))

/-- Groups of values, sorted by key if asked for; no groups are the empty collection. -/
def ofPairs (pairs : Groups Value) (sort : Bool) : Except Failure Value :=
  if pairs.isEmpty then .ok .empty
  else if sort then (sortedByKey pairs).bind ofGroups
  else ofGroups pairs

end Value

end LedgerQuery

namespace LedgerQuery.Operation

/-! ## Grouping

Transactions in groups by a key of their date. One after another they go into the group of their
key, which is opened where the key first occurs; then the groups are sorted by their keys. -/

/-- Groups with one more transaction: it goes to the end of the group of its key, or into a new
group behind the others. -/
def addTo (key : GroupKey) (t : Transaction) :
    Groups (List Transaction) → Groups (List Transaction)
  | [] => [(key, [t])]
  | (other, held) :: groups =>
    if other = key then (other, held ++ [t]) :: groups else (other, held) :: addTo key t groups

def collect (keyOf : Transaction → GroupKey) (items : List Transaction) :
    Groups (List Transaction) :=
  items.foldl (fun groups t => addTo (keyOf t) t groups) []

def groupBy (operation : String) (keyOf : Transaction → GroupKey) :
    Value → Except Failure Value
  | .transactions items =>
    Value.ofPairs ((collect keyOf items).map fun (key, held) => (key, .transactions held)) true
  | value => value.mismatch operation

def monthly : Value → Except Failure Value :=
  groupBy "monthly" fun t => .monthOf t.date

def yearly : Value → Except Failure Value :=
  groupBy "yearly" fun t => .yearOf t.date

end LedgerQuery.Operation
