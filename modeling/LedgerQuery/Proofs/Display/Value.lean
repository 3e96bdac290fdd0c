import LedgerQuery.Proofs.Display.Transaction
import LedgerQuery.Proofs.Evaluation.Typing

/-! How a register is shown. Above its structure stand blocks of lines, one for each group, or one
for each transaction if there are no groups. Turning a register round turns round its blocks and
keeps its structure. -/

namespace LedgerQuery

def Value.numbers : Value → List Number
  | .number n => [n]
  | .groupedNumbers groups => groups.map Prod.snd
  | _ => []

namespace Value

variable {items : List Transaction} {value reversed : Value}

theorem DrawnFrom.descriptor_reverse (h : value.DrawnFrom items)
    (hr : Operation.reverse value = .ok reversed) : reversed.descriptor = value.descriptor := by
  cases h with
  | empty =>
    cases hr
    rfl
  | number n => cases hr
  | transactions some drawn =>
    cases hr
    rfl
  | @groupedTransactions groups some keys held drawn =>
    cases hr
    obtain ⟨kind, hkeys⟩ := keys.exists_kind
    rw [descriptor_groupedTransactions some hkeys,
      descriptor_groupedTransactions (by simpa using some) fun group hm =>
        hkeys group (List.mem_reverse.mp hm)]
  | @groupedNumbers groups some keys held =>
    cases hr
    obtain ⟨kind, hkeys⟩ := keys.exists_kind
    obtain ⟨inner, hinner⟩ := held.exists_descriptor
    rw [descriptor_groupedNumbers some hkeys hinner,
      descriptor_groupedNumbers (by simpa using some)
        (fun group hm => hkeys group (List.mem_reverse.mp hm))
        fun group hm => hinner group (List.mem_reverse.mp hm)]

/-- The whole numbers of a register are no more than the transactions at the start, or one. -/
theorem IsRegister.natAbs_le (h : value.IsRegister items) {count : Int}
    (hm : .int count ∈ value.numbers) : count.natAbs ≤ max 1 items.length := by
  have hwithin := h.within
  cases value with
  | number n => exact hwithin.natAbs_le hm
  | groupedNumbers groups => exact hwithin.2.natAbs_le hm
  | _ => cases hm

end Value

namespace Display
open Text

def itemBlock (settings : Settings) (group : GroupKey × List Transaction) : List StyledText :=
  ⟨group.1.text, some .yellow, []⟩ :: group.2.map (transaction settings) ++ [⟨[], none, []⟩]

inductive IsNumberBlock (group : GroupKey × Number) : List StyledText → Prop where
  | line {line shown : StyledText} (made : numberGroup group = .ok line)
      (number : number group.2 = .ok shown)
      (plain : line.plain = group.1.text ++ '\t' :: shown.plain) : IsNumberBlock group [line]

/-- The blocks of lines in which a value is shown. -/
inductive ShownAs (settings : Settings) : Value → List (List StyledText) → Prop where
  | empty : ShownAs settings .empty [[⟨['[', ']'], none, []⟩]]
  | number {n : Number} {shown : StyledText} (number : number n = .ok shown) :
      ShownAs settings (.number n) [[shown]]
  | transactions (items : List Transaction) :
      ShownAs settings (.transactions items) (items.map fun t => [transaction settings t])
  | groupedTransactions (groups : Groups (List Transaction)) :
      ShownAs settings (.groupedTransactions groups) (groups.map (itemBlock settings))
  | groupedNumbers {groups : Groups Number} {blocks : List (List StyledText)}
      (numbers : List.Forall₂ IsNumberBlock groups blocks) :
      ShownAs settings (.groupedNumbers groups) blocks

theorem clean_text (key : GroupKey) : clean key.text = key.text := by
  apply clean_of_le
  intro c hc
  cases key with
  | month year month =>
    rcases List.mem_append.mp hc with h | h
    · exact le_of_isAsciiDigit (Decimal.isAsciiDigit_of_mem_digits h)
    · rcases List.mem_cons.mp h with rfl | h
      · decide
      · exact le_of_isAsciiDigit (Decimal.isAsciiDigit_of_mem_padded h)
  | year year =>
    rw [GroupKey.text, GroupKey.signedPadded] at hc
    split at hc
    · rcases List.mem_cons.mp hc with rfl | h
      · decide
      · exact le_of_isAsciiDigit (Decimal.isAsciiDigit_of_mem_padded h)
    · exact le_of_isAsciiDigit (Decimal.isAsciiDigit_of_mem_padded hc)

theorem transactionGroup_eq (settings : Settings) (group : GroupKey × List Transaction) :
    transactionGroup settings group = itemBlock settings group := by
  rw [transactionGroup, label, StyledText.ofPiece, clean_text]
  rfl

theorem isNumberBlock {group : GroupKey × Number} {shown : StyledText}
    (h : number group.2 = .ok shown) : ∃ block, IsNumberBlock group block := by
  refine ⟨_, .line (by rw [numberGroup, h]; rfl) h ?_⟩
  have htab : clean ['\t'] = ['\t'] := by decide
  simp [StyledText.append, StyledText.push, label, StyledText.ofPiece, clean_text, htab]

section Blocks
variable {settings : Settings} {value reversed : Value} {blocks : List (List StyledText)}

theorem ShownAs.content (h : ShownAs settings value blocks) :
    content settings value = .ok blocks.flatten := by
  cases h with
  | empty => rfl
  | number hn =>
    rw [Display.content, hn]
    rfl
  | transactions items =>
    rw [← List.flatMap_def, ← List.map_eq_flatMap]
    rfl
  | groupedTransactions groups =>
    have hgroup : transactionGroup settings = itemBlock settings :=
      funext (transactionGroup_eq settings)
    rw [← List.flatMap_def, Display.content, hgroup]
  | groupedNumbers hnumbers =>
    refine mapM_eq_ok_iff.mpr ?_
    induction hnumbers with
    | nil => exact .nil
    | cons hfirst _ ih =>
      cases hfirst with
      | line made _ _ => exact .cons made ih

/-- A value of a register is shown if its whole numbers are not too long. -/
theorem exists_shownAs {items : List Transaction} (settings : Settings) (h : value.DrawnFrom items)
    (hcounts : ∀ n : Int, .int n ∈ value.numbers → n.natAbs < 10 ^ Decimal.digitLimit) :
    ∃ blocks, ShownAs settings value blocks := by
  cases h with
  | empty => exact ⟨_, .empty⟩
  | number n =>
    obtain ⟨shown, hshown⟩ := exists_number_of_lt fun m hm =>
      hcounts m (List.mem_singleton.mpr hm.symm)
    exact ⟨_, .number hshown⟩
  | transactions some drawn => exact ⟨_, .transactions _⟩
  | groupedTransactions some keys held drawn => exact ⟨_, .groupedTransactions _⟩
  | @groupedNumbers groups some keys held =>
    have hblock : ∀ group ∈ groups, ∃ block, IsNumberBlock group block := by
      intro group hm
      obtain ⟨shown, hshown⟩ := @exists_number_of_lt group.2 fun n hn =>
        hcounts n (hn ▸ List.mem_map_of_mem hm)
      exact isNumberBlock hshown
    choose! block hblock using hblock
    exact ⟨groups.map block, .groupedNumbers (List.forall₂_map_right_iff.mpr
      (List.forall₂_same.mpr hblock))⟩

theorem clean_descriptor {items : List Transaction} {descriptor : Descriptor}
    (h : value.DrawnFrom items) (hd : value.descriptor = .ok descriptor) :
    clean descriptor.text.toList = descriptor.text.toList := by
  have htable : ∀ kind : KeyKind, ∀ inner ∈ [Descriptor.integer, .float, .transactions],
      clean (Descriptor.grouped kind inner).text.toList =
        (Descriptor.grouped kind inner).text.toList := by
    intro kind
    cases kind <;> decide
  have hinner : ∀ inner ∈ [Descriptor.integer, .float, .transactions],
      clean inner.text.toList = inner.text.toList := by decide
  have hnumber (n : Number) : n.descriptor ∈ [Descriptor.integer, .float, .transactions] := by
    cases n <;> simp [Number.descriptor]
  cases h with
  | empty =>
    cases hd
    decide
  | number n =>
    cases hd
    exact hinner _ (hnumber n)
  | transactions some drawn =>
    cases hd
    decide
  | @groupedTransactions groups some keys held drawn =>
    cases groups with
    | nil => exact absurd rfl some
    | cons group rest =>
      cases hd
      exact htable _ _ (by decide)
  | @groupedNumbers groups some keys held =>
    cases groups with
    | nil => exact absurd rfl some
    | cons group rest =>
      cases hd
      exact htable _ _ (hnumber group.2)

theorem ShownAs.lines {items : List Transaction} {descriptor : Descriptor}
    (h : ShownAs settings value blocks) (hdrawn : value.DrawnFrom items)
    (hd : value.descriptor = .ok descriptor) :
    lines settings value =
      .ok (blocks.flatten ++ [⟨descriptor.text.toList, some .magenta, []⟩]) := by
  have hlast : StyledText.ofPiece descriptor.text.toList (some .magenta) =
      ⟨descriptor.text.toList, some .magenta, []⟩ := by
    simp only [StyledText.ofPiece, clean_descriptor hdrawn hd]
  rw [Display.lines, h.content, hd, ← hlast]
  rfl

/-- Between the keys and the empty lines stand the items of the groups. -/
theorem items_of_blocks (settings : Settings) (groups : Groups (List Transaction)) :
    (groups.map (itemBlock settings)).flatMap (fun block => block.tail.dropLast) =
      (groups.flatMap Prod.snd).map (transaction settings) := by
  rw [List.flatMap_map, List.map_flatMap]
  congr 1
  funext group
  rw [itemBlock, List.cons_append, List.tail_cons, List.dropLast_concat]

theorem length_itemBlocks (settings : Settings) (groups : Groups (List Transaction)) :
    (groups.map (itemBlock settings)).flatten.length =
      groups.length * 2 + (groups.flatMap Prod.snd).length := by
  induction groups with
  | nil => rfl
  | cons group groups ih =>
    simp only [List.map_cons, List.flatten_cons, List.length_append, ih, itemBlock,
      List.length_cons, List.length_map, List.length_nil, List.flatMap_cons]
    omega

theorem ShownAs.reverse (h : ShownAs settings value blocks)
    (hr : Operation.reverse value = .ok reversed) : ShownAs settings reversed blocks.reverse := by
  cases h with
  | empty =>
    cases hr
    exact .empty
  | number _ => cases hr
  | transactions items =>
    cases hr
    rw [← List.map_reverse]
    exact .transactions items.reverse
  | groupedTransactions groups =>
    cases hr
    rw [← List.map_reverse]
    exact .groupedTransactions groups.reverse
  | groupedNumbers numbers =>
    cases hr
    exact .groupedNumbers (List.forall₂_reverse_iff.mpr numbers)

end Blocks

/-- Whatever a register comes to hold is shown completely: in its blocks, below which stands its
structure. The blocks of groups of transactions have the items of all groups in order, and turned
round the register is shown in the same blocks in the opposite order. -/
theorem register_shown {α : Type} {printer : Option (Value → Except Failure α)}
    {items : List Transaction} {commands : List Line} {register : Value}
    (reached : ((Workspace.start (.ofTransactions items)).evaluateLines printer commands).register =
      register)
    (counts : ∀ n : Int, .int n ∈ register.numbers → n.natAbs < 10 ^ Decimal.digitLimit)
    (settings : Settings) :
    ∃ blocks descriptor, register.descriptor = .ok descriptor ∧
      ShownAs settings register blocks ∧
      lines settings register =
        .ok (blocks.flatten ++ [⟨descriptor.text.toList, some .magenta, []⟩]) ∧
      (∀ groups, register = .groupedTransactions groups →
        blocks.flatMap (fun block => block.tail.dropLast) =
          (groups.flatMap Prod.snd).map (transaction settings) ∧
        ∀ shown, lines settings register = .ok shown →
          shown.length = groups.length * 2 + (groups.flatMap Prod.snd).length + 1) ∧
      ((∃ groups, register = .groupedTransactions groups) ∨
          (∃ groups, register = .groupedNumbers groups) →
        ∃ reversed, Operation.reverse register = .ok reversed ∧
          lines settings reversed =
            .ok (blocks.reverse.flatten ++ [⟨descriptor.text.toList, some .magenta, []⟩])) := by
  have hregister : register.DrawnFrom items :=
    reached ▸ (Value.IsRegister.evaluateLines printer items commands).drawn
  obtain ⟨blocks, hblocks⟩ := exists_shownAs settings hregister counts
  obtain ⟨descriptor, hdescriptor, -⟩ := hregister.descriptor
  have hlines := hblocks.lines hregister hdescriptor
  refine ⟨blocks, descriptor, hdescriptor, hblocks, hlines, ?_, fun hgroups => ?_⟩
  · rintro groups rfl
    cases hblocks with
    | groupedTransactions =>
      refine ⟨items_of_blocks settings groups, fun shown hshown => ?_⟩
      rw [hlines] at hshown
      cases hshown
      rw [List.length_append, length_itemBlocks, List.length_singleton]
  · obtain ⟨reversed, hreversed⟩ : ∃ reversed, Operation.reverse register = .ok reversed := by
      rcases hgroups with ⟨groups, rfl⟩ | ⟨groups, rfl⟩
      · exact ⟨_, rfl⟩
      · exact ⟨_, rfl⟩
    have htransform : Builtin.reverse.transform (.ofTransactions items) .none register =
        .ok reversed := hreversed
    have hdrawn : reversed.DrawnFrom items :=
      (Value.IsRegister.start items).drawn.transform hregister htransform
    refine ⟨reversed, hreversed, (hblocks.reverse hreversed).lines hdrawn ?_⟩
    rw [hregister.descriptor_reverse hreversed, hdescriptor]

/-- Three transactions of two months, counted by month. -/
theorem register_shown_counts :
    let first : Transaction :=
      { hash := "h1", account := "Checking", date := ⟨2023, ⟨1, by decide⟩, 5, by decide⟩,
        amount := -10, description := "Corner Deli" }
    let second := { first with hash := "h2", date := ⟨2023, ⟨2, by decide⟩, 1, by decide⟩ }
    let items := [second, first, second]
    let workspace := Workspace.start (.ofTransactions items)
    let silent : Option (Value → Except Failure Unit) := none
    let body : Pipeline := ⟨[⟨"monthly", .none⟩, ⟨"count", .none⟩], "monthly | count"⟩
    ∃ counts, (workspace.evaluateLines silent [.pipeline body]).register = .groupedNumbers counts ∧
      ∀ settings, ∃ blocks last, ShownAs settings (.groupedNumbers counts) blocks ∧
        lines settings (.groupedNumbers counts) = .ok (blocks.flatten ++ [last]) := by
  intro first second items workspace silent body
  have hmonthly : (workspace.scope silent).runCommand [] ⟨"monthly", .none⟩ workspace.register =
      { register := .groupedTransactions (Operation.buckets KeyKind.month.keyOf items) } := by
    change (workspace.scope silent).runBuiltin .monthly .none (.transactions items) = _
    rw [Scope.runBuiltin, Builtin.transform, ← Operation.grouping,
      Operation.grouping_of_some .month (List.cons_ne_nil second [first, second])]
    rfl
  have hreached : (workspace.evaluateLines silent [.pipeline body]).register =
      .groupedNumbers (Operation.mapGroups (fun list => .int list.length)
        (Operation.buckets KeyKind.month.keyOf items)) := by
    simp only [Workspace.evaluateLines, List.foldl_cons, List.foldl_nil, Workspace.evaluateLine,
      Workspace.runCommands, body, Scope.run_cons, hmonthly, Scope.run_nil, Outcome.andThen,
      Outcome.after]
    rfl
  have hregister := Value.IsRegister.evaluateLines silent items [.pipeline body]
  rw [hreached] at hregister
  have hthree : 3 < 10 ^ Decimal.digitLimit :=
    lt_of_lt_of_le (by decide : 3 < 10 ^ 1) (Nat.pow_le_pow_right (by decide) (by decide))
  refine ⟨_, hreached, fun settings => ?_⟩
  obtain ⟨blocks, descriptor, -, hblocks, hlines, -⟩ := register_shown hreached
    (fun _ hm => (hregister.natAbs_le hm).trans_lt hthree) settings
  exact ⟨blocks, _, hblocks, hlines⟩

end Display
end LedgerQuery
