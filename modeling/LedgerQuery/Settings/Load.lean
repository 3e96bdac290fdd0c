import LedgerQuery.Decimal.Binary64
import LedgerQuery.Dictionary
import LedgerQuery.Files.FileSystem
import LedgerQuery.Query.Syntax
import LedgerQuery.Text.Quoted

/-!
# Settings

What a session is configured with, and how variables give it.
-/
namespace LedgerQuery

/-! ## Checked settings

Settings are made from fields by a check: no tag is both a primary and a regular one, the separator
is not blank, and both widths are positive. Settings that exist have passed it. -/

inductive SettingsFault where
  | sharedTags (tags : List String)
  | blankSeparator
  | widthNotPositive (field : String)
  | notAnInteger (name text : String)
  | badAccountAlias (entry : String)
  deriving DecidableEq, Repr

def SettingsFault.message : SettingsFault → String
  | .sharedTags tags => "A tag cannot be both a primary and a regular tag: " ++ quoteList tags
  | .blankSeparator => "separator must not be blank"
  | .widthNotPositive field => field ++ " must be a positive integer"
  | .notAnInteger name text => name ++ " must be an integer, got " ++ quote text
  | .badAccountAlias entry => "invalid BUFFET_ACCOUNT_ALIASES entry: " ++ quote entry

structure Settings where
  transactionsPath : Path
  aliasesPath : Path
  separator : String
  primaryTags : List String
  tags : List String
  descriptionWidth : Nat
  accountWidth : Nat
  accountAliases : Dictionary String
  tags_disjoint : ∀ tag ∈ primaryTags, tag ∉ tags
  separator_not_blank : Text.trim separator.toList ≠ []
  descriptionWidth_pos : 0 < descriptionWidth
  accountWidth_pos : 0 < accountWidth

namespace Settings

def defaultPrimaryTags : List String :=
  ["ignore", "housing", "food", "health", "entertainment", "transportation", "travel",
   "utilities", "shopping", "cash", "gifts", "special", "donations"]

def defaultTags : List String :=
  ["eating out", "groceries", "coffee", "taxis", "cell", "gas", "wedding", "books", "movies",
   "airfare", "rent", "dental", "copay", "medical", "car rental", "gym", "drinks", "insurance",
   "credit card payment", "payroll", "transfer", "interest", "atm rebate", "check", "internet",
   "lunch", "software", "transit", "beauty", "doctor"]

/-- The fields of settings before they are checked, with the values they have by default. -/
structure Fields where
  transactionsPath : Path := .ofString "./data/transactions.db"
  aliasesPath : Path := .ofString "./data/envrc"
  separator : String := Separator.standardText
  primaryTags : List String := defaultPrimaryTags
  tags : List String := defaultTags
  descriptionWidth : Int := 52
  accountWidth : Int := 15
  accountAliases : Dictionary String := []

def Fields.sharedTags (fields : Fields) : List String :=
  ((fields.primaryTags.filter (fields.tags.contains ·)).eraseDups).mergeSort (· ≤ ·)

def Fields.check (fields : Fields) : Except SettingsFault Settings :=
  if hd : ∀ tag ∈ fields.primaryTags, tag ∉ fields.tags then
    if hs : Text.trim fields.separator.toList ≠ [] then
      if hw : 0 < fields.descriptionWidth then
        if ha : 0 < fields.accountWidth then
          .ok {
            transactionsPath := fields.transactionsPath
            aliasesPath := fields.aliasesPath
            separator := fields.separator
            primaryTags := fields.primaryTags
            tags := fields.tags
            descriptionWidth := fields.descriptionWidth.toNat
            accountWidth := fields.accountWidth.toNat
            accountAliases := fields.accountAliases
            tags_disjoint := hd
            separator_not_blank := hs
            descriptionWidth_pos := by omega
            accountWidth_pos := by omega }
        else .error (.widthNotPositive "max_account_length")
      else .error (.widthNotPositive "max_description_length")
    else .error .blankSeparator
  else .error (.sharedTags fields.sharedTags)

def allTags (settings : Settings) : List String :=
  settings.primaryTags ++ settings.tags

def accountName (settings : Settings) (account : String) : String :=
  (settings.accountAliases.get? account).getD account

/-- The mark between commands: the separator without blanks at its ends. -/
def mark (settings : Settings) : Separator :=
  ⟨Text.trim settings.separator.toList, settings.separator_not_blank⟩

end Settings

end LedgerQuery

namespace LedgerQuery.Settings

/-! ## Settings from variables

Each setting can be given by a variable. Lists are separated by commas, account aliases by
semicolons, each an equation of account and name. A variable that is absent leaves the default; an
empty one does too, but for the lists, which it empties. -/

open Text

abbrev Variables := Dictionary String

/-- The items between commas, trimmed, without empty ones and repetitions. -/
def splitList (text : String) : List String :=
  let items := (splitAt (· = ',') text.toList).map trim
  distinct ((items.filter (· ≠ [])).map String.ofList)

/-- The account and the name of an equation; both must be there. -/
def readAccountAlias (entry : List Char) : Except SettingsFault (String × String) :=
  let account := trim (entry.takeWhile (· ≠ '='))
  let name := trim ((entry.dropWhile (· ≠ '=')).drop 1)
  if account = [] ∨ name = [] then
    .error (.badAccountAlias (String.ofList (trim entry)))
  else .ok (String.ofList account, String.ofList name)

def readAccountAliases (text : String) : Except SettingsFault (Dictionary String) := do
  let entries := (splitAt (· = ';') text.toList).filter (!isAllBlank ·)
  return .ofPairs (← entries.mapM readAccountAlias)

def readWidth (given : Variables) (name : String) (default : Int) :
    Except SettingsFault Int :=
  match given.get? name with
  | none => .ok default
  | some text =>
    if isAllBlank text.toList then .ok default
    else match Decimal.readInt text.toList with
      | .ok n => .ok n
      | .error _ => .error (.notAnInteger name text)

def readPath (given : Variables) (name : String) (default : Path) : Path :=
  match given.get? name with
  | none => default
  | some text => if text.isEmpty then default else .ofString text

def readSeparator (given : Variables) : String :=
  let trimmed := trim ((given.get? "BUFFET_SEPARATOR").getD "").toList
  if trimmed = [] then Separator.standardText else String.ofList trimmed

def readTags (given : Variables) (name : String) (default : List String) : List String :=
  match given.get? name with
  | none => default
  | some text => splitList text

def readFields (given : Variables) : Except SettingsFault Fields := do
  let defaults : Fields := {}
  return {
    transactionsPath := readPath given "BUFFET_TRANSACTIONS_DB" defaults.transactionsPath
    aliasesPath := readPath given "BUFFET_ENV_PATH" defaults.aliasesPath
    separator := readSeparator given
    primaryTags := readTags given "BUFFET_PRIMARY_TAGS" defaults.primaryTags
    tags := readTags given "BUFFET_TAGS" defaults.tags
    descriptionWidth :=
      ← readWidth given "BUFFET_MAX_DESCRIPTION_LENGTH" defaults.descriptionWidth
    accountWidth := ← readWidth given "BUFFET_MAX_ACCOUNT_LENGTH" defaults.accountWidth
    accountAliases :=
      ← readAccountAliases ((given.get? "BUFFET_ACCOUNT_ALIASES").getD "") }

def variableNames : List String :=
  ["BUFFET_TRANSACTIONS_DB", "BUFFET_ENV_PATH", "BUFFET_SEPARATOR", "BUFFET_PRIMARY_TAGS",
   "BUFFET_TAGS", "BUFFET_MAX_DESCRIPTION_LENGTH", "BUFFET_MAX_ACCOUNT_LENGTH",
   "BUFFET_ACCOUNT_ALIASES"]

def load (given : Variables) : Except SettingsFault Settings := do
  (← readFields given).check

end LedgerQuery.Settings
