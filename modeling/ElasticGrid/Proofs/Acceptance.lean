import ElasticGrid.Proofs.Runs
import ElasticGrid.Value
import Mathlib.Algebra.Group.Nat.Defs

/-!
# Which indexes are accepted

An operation on a grid demands something of each number that it is given, in a fixed order: the
number has to be an index, and mostly one below a bound. The operation is carried out if all of
its demands are met. If not, its report is on the first number of which too much was demanded.
-/

namespace ElasticGrid

variable {α β γ : Type}

/-- The number is the same as `i`, a natural number up to which there is no gap in the numbers. -/
def Number.IsIndex (number : Number) (i : Nat) : Prop := number.same (.ofNat i) ∧ i < 2 ^ 53

/-- A number has to be an index, and below the bound if there is one. -/
structure Demand where
  number : Number
  bound : Option Nat

namespace Demand

def Met (d : Demand) : Prop := ∃ i, d.number.IsIndex i ∧ ∀ n, d.bound = some n → i < n

/-- The reports on a number that does not meet a demand. -/
inductive Refuses : Demand → IndexReport → Prop where
  | notAnIndex {number : Number} {bound : Option Nat} {report : IndexReport} :
    (∀ i, ¬number.IsIndex i) → report.index = number → report.limit = none →
      Refuses ⟨number, bound⟩ report
  | outOfRange {number : Number} {i n : Nat} {report : IndexReport} :
    number.IsIndex i → n ≤ i → report.index = .ofNat i → report.limit = some (.ofNat n) →
      Refuses ⟨number, some n⟩ report

end Demand

/-- A result that is one if all of the demands are met, and else a report on the first that is
not. -/
structure Checks (result : Except IndexFault β) (demands : List Demand) : Prop where
  succeeds : (∃ b, result = .ok b) ↔ ∀ d ∈ demands, d.Met
  refuses : ∀ fault, result = .error fault → ∃ met d rest, demands = met ++ d :: rest ∧
    (∀ m ∈ met, m.Met) ∧ d.Refuses fault.report

def CellAddress.made : CellAddress → List Demand
  | indexes _ _ => []
  | position x y => [⟨x, none⟩, ⟨y, none⟩]

/-- What brings the cell into a grid: its column, then its row. -/
def CellAddress.within (g : Grid α) : CellAddress → List Demand
  | indexes x y | position x y => [⟨x, some g.columnCount⟩, ⟨y, some g.rowCount⟩]

/-- What is demanded beside `count` lines. Without any, the last one is the one before the
first. -/
def LineAddress.demands (count : Nat) : LineAddress → List Demand
  | nth index => [⟨index, some count⟩]
  | first => [⟨.ofNat 0, some count⟩]
  | last => if count = 0 then [⟨.ofInt (-1), some count⟩] else []

/-- What is demanded beside `count` lines. After an index comes the next one. -/
def SlotAddress.demands (count : Nat) : SlotAddress → List Demand
  | before index => [⟨index, some (count + 1)⟩]
  | after index =>
    match index.toIndex? with
    | none => [⟨index, none⟩]
    | some i => [⟨.ofNat (i + 1), some (count + 1)⟩]
  | atEnd => []

def Query.demands (g : Grid α) : Query α → List Demand
  | cell address => address.made ++ address.within g
  | line axis address => address.demands (g.count axis)
  | region probes => probes.flatMap fun (x, y) => [⟨x, none⟩, ⟨y, none⟩]
  | _ => []

def Edit.demands (g : Grid α) : Edit α → List Demand
  | setCell address _ => address.made ++ address.within g
  | insert axis slot _ => slot.demands (g.count axis)
  | remove axis line => line.demands (g.count axis)
  | replace axis index _ => [⟨index, some (g.count axis)⟩]
  | swapCells a b => a.made ++ (b.made ++ (a.within g ++ b.within g))
  | swapLines axis i j => [⟨i, some (g.count axis)⟩, ⟨j, some (g.count axis)⟩]
  | _ => []

namespace Number

variable {number : Number} {i j : Nat}

theorem same_ofNat_iff : number.same (.ofNat i) ↔ number.value? = some (i : Rat) := by
  cases number <;> simp [same, ofNat, value?]

theorem toInt?_eq_some_iff {z : Int} : number.toInt? = some z ↔ number.value? = some (z : Rat) := by
  unfold toInt?
  cases number.value? with
  | none => simp
  | some v =>
    simp only [Option.ite_none_right_eq_some, Option.some_inj]
    constructor
    · rintro ⟨hden, rfl⟩
      exact Rat.ext rfl hden
    · rintro rfl; simp

theorem toIndex?_eq_some_iff : number.toIndex? = some i ↔ number.IsIndex i := by
  have hmax : maxIndex + 1 = 2 ^ 53 := by decide
  rw [IsIndex, same_ofNat_iff, show (i : Rat) = ((i : Int) : Rat) from rfl, ← toInt?_eq_some_iff]
  unfold toIndex?
  cases number.toInt? with
  | none => simp
  | some z =>
    simp only [Option.ite_none_right_eq_some, Option.some_inj]
    omega

theorem toIndex?_eq_none_iff : number.toIndex? = none ↔ ∀ i, ¬number.IsIndex i := by
  rw [Option.eq_none_iff_forall_ne_some]
  simp only [ne_eq, toIndex?_eq_some_iff]

theorem IsIndex.unique (hi : number.IsIndex i) (hj : number.IsIndex j) : i = j := by
  rw [← toIndex?_eq_some_iff] at hi hj
  exact Option.some.inj (hi.symm.trans hj)

theorem isIndex_ofNat (hi : i < 2 ^ 53) : (ofNat i).IsIndex i := ⟨same_ofNat_iff.2 rfl, hi⟩

theorem IsIndex.requireIndex (hi : number.IsIndex i) (role : Role) :
    number.requireIndex role = .ok i :=
  requireIndex_eq_ok_iff.2 (toIndex?_eq_some_iff.2 hi)

end Number

namespace Demand

variable {d : Demand} {report : IndexReport}

theorem Refuses.not_met (h : d.Refuses report) : ¬d.Met := by
  rintro ⟨i, hi, hbound⟩
  cases h with
  | notAnIndex hnone => exact hnone i hi
  | outOfRange hj hle =>
    have hlt := hbound _ rfl
    have heq := hi.unique hj
    omega

/-- A report tells a bound unless its index is none. -/
theorem Refuses.limit_eq_none_iff (h : d.Refuses report) :
    report.limit = none ↔ ∀ i, ¬report.index.IsIndex i := by
  cases h with
  | notAnIndex hnone hindex hlimit =>
    rw [hindex]
    exact iff_of_true hlimit hnone
  | outOfRange hi _ hindex hlimit =>
    refine iff_of_false (by rw [hlimit]; exact Option.some_ne_none _) fun hnone => ?_
    rw [hindex] at hnone
    exact hnone _ (Number.isIndex_ofNat hi.2)

end Demand

namespace Checks

variable {found : Except IndexFault β} {demands demands' : List Demand}

theorem ok (b : β) (hmet : ∀ d ∈ demands, d.Met) : Checks (.ok b) demands :=
  ⟨⟨fun _ => hmet, fun _ => ⟨b, rfl⟩⟩, fun _ h => (nomatch h)⟩

theorem ok_nil (b : β) : Checks (.ok b) [] := .ok b fun _ hd => (nomatch hd)

theorem met {number : Number} {bound : Option Nat} {i : Nat} (b : β) (hi : number.IsIndex i)
    (hbound : ∀ n, bound = some n → i < n) : Checks (.ok b) [⟨number, bound⟩] :=
  .ok b fun _ hd => by rw [List.mem_singleton.1 hd]; exact ⟨i, hi, hbound⟩

theorem error {d : Demand} {fault : IndexFault} (h : d.Refuses fault.report) :
    Checks (.error fault : Except IndexFault β) [d] where
  succeeds := ⟨fun ⟨_, hb⟩ => (nomatch hb), fun hmet => absurd (hmet d (.head _)) h.not_met⟩
  refuses _ hfault := ⟨[], d, [], rfl, fun _ hm => (nomatch hm), Except.error.inj hfault ▸ h⟩

/-- One after the other, the demands are met or the first that is not is refused. -/
theorem bind {next : β → Except IndexFault γ} (hfound : Checks found demands)
    (hnext : ∀ b, found = .ok b → Checks (next b) demands') :
    Checks (found >>= next) (demands ++ demands') := by
  cases found with
  | error fault =>
    obtain ⟨met, d, rest, rfl, hmet, hd⟩ := hfound.refuses fault rfl
    refine ⟨⟨fun ⟨_, hc⟩ => (nomatch hc), fun hall => ?_⟩, fun fault' hfault => ?_⟩
    · exact absurd (hall d (by simp)) hd.not_met
    · cases hfault
      exact ⟨met, d, rest ++ demands', by simp, hmet, hd⟩
  | ok b =>
    have hfirst := hfound.succeeds.1 ⟨b, rfl⟩
    have hthen := hnext b rfl
    refine ⟨hthen.succeeds.trans ⟨fun hall d hd => ?_, fun hall d hd => ?_⟩, fun fault hfault => ?_⟩
    · exact (List.mem_append.1 hd).elim (hfirst d) (hall d)
    · exact hall d (List.mem_append_right demands hd)
    · obtain ⟨met, d, rest, rfl, hmet, hd⟩ := hthen.refuses fault hfault
      refine ⟨demands ++ met, d, rest, by simp, fun m hm => ?_, hd⟩
      exact (List.mem_append.1 hm).elim (hfirst m) (hmet m)

theorem map (hfound : Checks found demands) (f : β → γ) : Checks (found.map f) demands := by
  have hbind : Checks (found >>= fun b => .ok (f b)) (demands ++ []) :=
    hfound.bind fun b _ => .ok_nil (f b)
  rw [List.append_nil] at hbind
  exact hbind

theorem attempt (hfound : Checks found demands) (next : β → γ × Draft α) (d : Draft α) :
    Checks (Editing.attempt found next d).1 demands := by
  have hmap := hfound.map fun b => (next b).1
  cases found <;> exact hmap

theorem mapM {f : β → Except IndexFault γ} {demands : β → List Demand}
    (hf : ∀ b, Checks (f b) (demands b)) (bs : List β) :
    Checks (bs.mapM f) (bs.flatMap demands) := by
  induction bs with
  | nil => exact .ok_nil []
  | cons b bs ih =>
    rw [List.mapM_cons, List.flatMap_cons]
    exact (hf b).bind fun c _ => ih.map (c :: ·)

end Checks

/-! ## Addresses -/

/-- A number is refused for being no index before anything else is asked. -/
theorem checks_index {role : Role} {number : Number} {bound : Option Nat}
    {next : Nat → Except IndexFault β}
    (hnext : ∀ i, number.IsIndex i → Checks (next i) [⟨number, bound⟩]) :
    Checks (number.requireIndex role >>= next) [⟨number, bound⟩] := by
  cases hi : number.toIndex? with
  | none =>
    rw [Number.requireIndex, hi]
    exact .error (.notAnIndex (Number.toIndex?_eq_none_iff.1 hi) rfl rfl)
  | some i =>
    rw [Number.requireIndex_eq_ok_iff.2 hi]
    exact hnext i (Number.toIndex?_eq_some_iff.1 hi)

theorem checks_requireIndex (role : Role) (number : Number) :
    Checks (number.requireIndex role) [⟨number, none⟩] := by
  rw [← bind_pure (number.requireIndex role)]
  exact checks_index fun i hi => .met i hi fun _ h => (nomatch h)

theorem Position.ofNumbers_eq_ok_iff {x y : Number} {p : Position} :
    ofNumbers x y = .ok p ↔ x.IsIndex p.x ∧ y.IsIndex p.y := by
  constructor
  · intro h
    obtain ⟨i, hi, h⟩ := bind_eq_ok_iff.1 h
    obtain ⟨j, hj, h⟩ := bind_eq_ok_iff.1 h
    cases h
    rw [Number.requireIndex_eq_ok_iff, Number.toIndex?_eq_some_iff] at hi hj
    exact ⟨hi, hj⟩
  · rintro ⟨hx, hy⟩
    rw [ofNumbers, hx.requireIndex, hy.requireIndex]
    rfl

theorem CellAddress.numbers_position {x y : Number} {i j : Nat} (hx : x.IsIndex i)
    (hy : y.IsIndex j) : (position x y).numbers = .ok (.ofNat i, .ofNat j) := by
  have hp : Position.ofNumbers x y = .ok ⟨i, j⟩ := Position.ofNumbers_eq_ok_iff.2 ⟨hx, hy⟩
  rw [numbers, hp]
  rfl

theorem Position.checks_ofNumbers (x y : Number) :
    Checks (ofNumbers x y) [⟨x, none⟩, ⟨y, none⟩] :=
  (checks_requireIndex _ x).bind fun _ _ => (checks_requireIndex _ y).map _

namespace Grid

variable (g : Grid α) (axis : Axis)

theorem checks_lineAt (index : Number) :
    Checks (g.lineAt axis index) [⟨index, some (g.count axis)⟩] := by
  refine checks_index fun i hi => ?_
  by_cases hlt : i < g.count axis
  · rw [if_pos hlt]
    exact .met i hi fun n hn => by cases hn; exact hlt
  · rw [if_neg hlt]
    exact .error (.outOfRange hi (Nat.le_of_not_lt hlt) rfl rfl)

theorem checks_slotAt (index : Number) :
    Checks (g.slotAt axis index) [⟨index, some (g.count axis + 1)⟩] := by
  refine checks_index fun i hi => ?_
  by_cases hle : i ≤ g.count axis
  · rw [if_pos hle]
    exact .met i hi fun n hn => by cases hn; exact Nat.lt_succ_of_le hle
  · rw [if_neg hle]
    exact .error (.outOfRange hi (Nat.lt_of_not_le hle) rfl rfl)

theorem checks_findLine (line : LineAddress) :
    Checks (g.findLine axis line) (line.demands (g.count axis)) := by
  cases line with
  | nth index => exact g.checks_lineAt axis index
  | first => exact g.checks_lineAt axis _
  | last =>
    simp only [findLine, LineAddress.demands]
    cases g.count axis with
    | zero => exact .error (.notAnIndex (Number.toIndex?_eq_none_iff.1 (by decide)) rfl rfl)
    | succ last => exact .ok_nil last

theorem checks_findSlot (slot : SlotAddress) :
    Checks (g.findSlot axis slot) (slot.demands (g.count axis)) := by
  cases slot with
  | before index => exact g.checks_slotAt axis index
  | after index =>
    cases hi : index.toIndex? with
    | none =>
      simp only [findSlot, SlotAddress.demands, Number.requireIndex, hi]
      exact .error (.notAnIndex (Number.toIndex?_eq_none_iff.1 hi) rfl rfl)
    | some i =>
      simp only [findSlot, SlotAddress.demands, Number.requireIndex, hi, bind, Except.bind]
      exact g.checks_slotAt axis _
  | atEnd => exact .ok_nil _

theorem lineAt_ofNat {number : Number} {i : Nat} (hi : number.IsIndex i) :
    g.lineAt axis (.ofNat i) = g.lineAt axis number := by
  rw [lineAt, lineAt, hi.requireIndex, (Number.isIndex_ofNat hi.2).requireIndex]

theorem cellAt_ofNat {x y : Number} {i j : Nat} (hx : x.IsIndex i) (hy : y.IsIndex j) :
    g.cellAt (.ofNat i) (.ofNat j) = g.cellAt x y := by
  rw [cellAt, cellAt, g.lineAt_ofNat .column hx, g.lineAt_ofNat .row hy]

theorem checks_cellAt (x y : Number) :
    Checks (g.cellAt x y) [⟨x, some g.columnCount⟩, ⟨y, some g.rowCount⟩] :=
  (g.checks_lineAt .column x).bind fun _ _ => (g.checks_lineAt .row y).map _

/-- The numbers of an address lead to the same cell as those of the position made from them. -/
theorem checks_cellAt_numbers {address : CellAddress} {xy : Number × Number}
    (h : address.numbers = .ok xy) : Checks (g.cellAt xy.1 xy.2) (address.within g) := by
  cases address with
  | indexes x y =>
    cases h
    exact g.checks_cellAt x y
  | position x y =>
    rw [CellAddress.numbers] at h
    cases hp : Position.ofNumbers x y with
    | error fault => rw [hp] at h; cases h
    | ok p =>
      rw [hp] at h
      cases h
      obtain ⟨hx, hy⟩ := Position.ofNumbers_eq_ok_iff.1 hp
      rw [g.cellAt_ofNat hx hy]
      exact g.checks_cellAt x y

theorem checks_numbers (address : CellAddress) : Checks address.numbers address.made := by
  cases address with
  | indexes x y => exact .ok_nil _
  | position x y => exact (Position.checks_ofNumbers x y).map _

theorem checks_findCell (address : CellAddress) :
    Checks (g.findCell address) (address.made ++ address.within g) :=
  (checks_numbers address).bind fun _ h => g.checks_cellAt_numbers h

theorem checks_findPair (a b : CellAddress) :
    Checks (g.findPair a b) (a.made ++ (b.made ++ (a.within g ++ b.within g))) :=
  (checks_numbers a).bind fun _ ha => (checks_numbers b).bind fun _ hb =>
    (g.checks_cellAt_numbers ha).bind fun _ _ => (g.checks_cellAt_numbers hb).map _

theorem checks_findLines (i j : Number) :
    Checks (g.findLines axis i j) [⟨i, some (g.count axis)⟩, ⟨j, some (g.count axis)⟩] :=
  (g.checks_lineAt axis i).bind fun _ _ => (g.checks_lineAt axis j).map _

end Grid

/-! ## Queries and edits -/

variable {g : Grid α}

theorem Query.checks_answer [Content α] (g : Grid α) (query : Query α) :
    Checks (query.answer g) (query.demands g) := by
  cases query with
  | cell address => exact (g.checks_findCell address).map _
  | line axis address => exact (g.checks_findLine axis address).map _
  | region probes =>
    exact (Checks.mapM (fun (x, y) => (Position.checks_ofNumbers x y).map _) probes).map _
  | _ => exact .ok_nil _

open Editing in
theorem Edit.checks_run (hg : g.Rectangular) (edit : Edit α) :
    Checks (edit.run g).1 (edit.demands g) := by
  cases edit with
  | setCell address value => rw [run_setCell]; exact (g.checks_findCell address).attempt _ _
  | insert axis slot values => rw [run_insert hg]; exact (g.checks_findSlot axis slot).attempt _ _
  | remove axis line => rw [run_remove]; exact (g.checks_findLine axis line).attempt _ _
  | replace axis index values => rw [run_replace hg]; exact (g.checks_lineAt axis index).attempt _ _
  | swapCells a b => rw [run_swapCells]; exact (g.checks_findPair a b).attempt _ _
  | swapLines axis i j => rw [run_swapLines]; exact (g.checks_findLines axis i j).attempt _ _
  | pack rows columns => rw [run_pack]; exact .ok_nil _
  | clear => exact .ok_nil _
  | reverse axis => exact .ok_nil _
  | flip => rw [run_flip]; exact .ok_nil _
  | turn clockwise => rw [run_turn]; exact .ok_nil _

theorem LineAddress.forall_met_iff {line : LineAddress} (hline : line = .first ∨ line = .last)
    (count : Nat) : (∀ d ∈ line.demands count, d.Met) ↔ 0 < count := by
  have hzero : (Number.ofNat 0).IsIndex 0 := Number.toIndex?_eq_some_iff.1 (by decide)
  rcases hline with rfl | rfl
  · simp only [demands, List.mem_singleton, forall_eq, Demand.Met, Option.some_inj, forall_eq']
    constructor
    · rintro ⟨i, -, hlt⟩; omega
    · exact fun hlt => ⟨0, hzero, hlt⟩
  · have hminus : ∀ i, ¬(Number.ofInt (-1)).IsIndex i := Number.toIndex?_eq_none_iff.1 (by decide)
    by_cases hcount : count = 0
    · simp [demands, hcount, Demand.Met, hminus]
    · simp [demands, hcount]; omega

theorem SlotAddress.forall_met_after_iff {count : Nat} (hcount : count < 2 ^ 53)
    (index : Number) :
    (∀ d ∈ (SlotAddress.after index).demands count, d.Met) ↔ ∃ i, index.IsIndex i ∧ i < count := by
  have hnext : ∀ i, (∃ j, (Number.ofNat (i + 1)).IsIndex j ∧ j < count + 1) ↔ i < count := by
    intro i
    constructor
    · rintro ⟨j, ⟨hsame, -⟩, hlt⟩
      have heq : ((i + 1 : Nat) : Rat) = j := Option.some.inj (Number.same_ofNat_iff.1 hsame)
      have := Rat.natCast_inj.1 heq
      omega
    · exact fun hlt => ⟨i + 1, Number.isIndex_ofNat (by omega), by omega⟩
  cases hi : index.toIndex? with
  | none =>
    have hnone := Number.toIndex?_eq_none_iff.1 hi
    simp [demands, hi, Demand.Met, hnone]
  | some i =>
    have hindex := Number.toIndex?_eq_some_iff.1 hi
    simp only [demands, hi, List.mem_singleton, forall_eq, Demand.Met, Option.some_inj, forall_eq',
      hnext]
    exact ⟨fun hlt => ⟨i, hindex, hlt⟩, fun ⟨j, hj, hlt⟩ => hindex.unique hj ▸ hlt⟩

/-- **Indexes are accepted exactly when the demands on them are met**, and the report on a
refused one is on the first demand that is not. The ends can be asked for unless the grid is
empty; a line comes after any other one. -/
theorem Grid.Reachable.acceptance [Content α] (hg : g.Reachable) :
    (∀ query : Query α, Checks (query.answer g) (query.demands g)) ∧
    (∀ edit : Edit α, Checks (edit.run g).1 (edit.demands g)) ∧
    (∀ fault, (∃ query, Query.answer g query = .error fault) ∨
        (∃ edit, (Edit.run edit g).1 = .error fault) →
      fault.report.raised.isIndexReport ∧
        (fault.report.limit = none ↔ ∀ i, ¬fault.report.index.IsIndex i)) ∧
    (∀ axis line, line = .first ∨ line = .last →
      ((∃ view, (Query.line axis line).answer g = .ok view) ↔ ¬g.isEmpty) ∧
        ((∃ returned, ((Edit.remove axis line).run g).1 = .ok returned) ↔ ¬g.isEmpty)) ∧
    ∀ axis index values, g.count axis < 2 ^ 53 →
      ((∃ returned, ((Edit.insert axis (.after index) values).run g).1 = .ok returned) ↔
        ∃ i, index.IsIndex i ∧ i < g.count axis) := by
  have hquery := Query.checks_answer g
  have hedit := Edit.checks_run hg.rectangular
  refine ⟨hquery, hedit, fun fault hfault => ?_, fun axis line hline => ?_,
    fun axis index values hcount => ?_⟩
  · refine ⟨fault.report.isIndexReport_raised, ?_⟩
    rcases hfault with ⟨query, h⟩ | ⟨edit, h⟩
    · obtain ⟨_, _, _, _, _, hd⟩ := (hquery query).refuses fault h
      exact hd.limit_eq_none_iff
    · obtain ⟨_, _, _, _, _, hd⟩ := (hedit edit).refuses fault h
      exact hd.limit_eq_none_iff
  · have hempty : 0 < g.count axis ↔ ¬g.isEmpty := by
      rw [Grid.isEmpty_iff_columnCount, ← hg.rectangular.count_eq_zero_iff axis]
      exact Nat.pos_iff_ne_zero
    have hmet := (LineAddress.forall_met_iff hline (g.count axis)).trans hempty
    exact ⟨(hquery (.line axis line)).succeeds.trans hmet,
      (hedit (.remove axis line)).succeeds.trans hmet⟩
  · exact (hedit (.insert axis (.after index) values)).succeeds.trans
      (SlotAddress.forall_met_after_iff hcount index)

/-- The second column that is asked for does not exist; its row is not looked at. After the
greatest index comes a number that is none. -/
theorem swap_and_insertion_refused :
    let g := (Source.ofLines .row [[some (Value.whole 1), none]]).run.2.grid
    let swap := Edit.swapCells (.indexes .negativeZero (.ofNat 0)) (.indexes (.ofNat 2) .nan)
    let insertion := Edit.insert .row (.after (.ofNat (2 ^ 53 - 1))) []
    g.Reachable ∧ (swap.run g).1 = .error (.noSuchLine .column 2 2) ∧
      Checks (swap.run g).1 (swap.demands g) ∧
      (insertion.run g).1 = .error (.notAnIndex (.line .row) (.ofNat (2 ^ 53))) ∧
      Checks (insertion.run g).1 (insertion.demands g) := by
  intro g swap insertion
  have hg : g.Reachable := .built rfl
  exact ⟨hg, rfl, hg.acceptance.2.1 swap, rfl, hg.acceptance.2.1 insertion⟩

end ElasticGrid
