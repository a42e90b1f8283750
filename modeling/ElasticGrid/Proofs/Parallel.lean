import ElasticGrid.Proofs.Alike
import ElasticGrid.Proofs.Conservation

/-!
# The same done twice

An edit is done to a grid, and the same edit, with other values in the place of its own, is
done to a grid that is alike. Both are refused with the same fault or neither is; the grids
that come out are alike again, and so are the cells that come back; the events are the same.
The same is true of sources and of queries, short of what is asked of a query by a value.
-/

namespace ElasticGrid

variable {α β γ δ ε : Type} {R : α → β → Prop} {S : γ → δ → Prop}

/-- Two results that belong together, or the same fault twice. -/
inductive ResultsAlike (S : γ → δ → Prop) : Except ε γ → Except ε δ → Prop where
  | ok {c : γ} {d : δ} : S c d → ResultsAlike S (.ok c) (.ok d)
  | error (fault : ε) : ResultsAlike S (.error fault) (.error fault)

theorem ResultsAlike.lift {ε' ζ η : Type} {T : ζ → η → Prop}
    {found : Except ε γ} {found' : Except ε δ} (halike : ResultsAlike S found found') {p : γ → ζ}
    {q : δ → η} (hpq : ∀ {c d}, S c d → T (p c) (q d)) (fault : ε → ε') :
    ResultsAlike T ((found.map p).mapError fault) ((found'.map q).mapError fault) := by
  cases halike with
  | ok hcd => exact .ok (hpq hcd)
  | error e => exact .error (fault e)

/-- Outcomes with alike results, alike grids and the same events. -/
structure OutcomesAlike (R : α → β → Prop) (S : γ → δ → Prop)
    (outcome : Except IndexFault γ × Draft α) (outcome' : Except IndexFault δ × Draft β) :
    Prop where
  result : ResultsAlike S outcome.1 outcome'.1
  grid : outcome.2.grid.Alike R outcome'.2.grid
  events : outcome.2.events = outcome'.2.events

theorem OutcomesAlike.of_attempt {found : Except IndexFault ε} {next : ε → γ × Draft α}
    {next' : ε → δ × Draft β} {g : Grid α} {h : Grid β} (hgh : g.Alike R h)
    (hnext : ∀ e, found = .ok e → S (next e).1 (next' e).1 ∧
      (next e).2.grid.Alike R (next' e).2.grid ∧ (next e).2.events = (next' e).2.events) :
    OutcomesAlike R S (Editing.attempt found next ⟨g, []⟩)
      (Editing.attempt found next' ⟨h, []⟩) := by
  cases found with
  | error fault => exact ⟨.error fault, hgh, rfl⟩
  | ok e =>
    obtain ⟨hresult, hgrid, hevents⟩ := hnext e rfl
    exact ⟨.ok hresult, hgrid, hevents⟩

namespace Grid.Alike

variable {g : Grid α} {h : Grid β} {axis : Axis} {i : Nat}

theorem lineAt_eq (hgh : g.Alike R h) (axis : Axis) (index : Number) :
    h.lineAt axis index = g.lineAt axis index := by
  simp only [lineAt, hgh.count_eq]

theorem findLine_eq (hgh : g.Alike R h) (axis : Axis) (line : LineAddress) :
    h.findLine axis line = g.findLine axis line := by
  cases line with
  | nth index => exact hgh.lineAt_eq axis index
  | first => exact hgh.lineAt_eq axis _
  | last => simp only [findLine, hgh.count_eq]

theorem findSlot_eq (hgh : g.Alike R h) (axis : Axis) (slot : SlotAddress) :
    h.findSlot axis slot = g.findSlot axis slot := by
  cases slot <;> simp only [findSlot, slotAt, hgh.count_eq]

theorem findCell_eq (hgh : g.Alike R h) (address : CellAddress) :
    h.findCell address = g.findCell address := by
  simp only [findCell, cellAt, hgh.lineAt_eq]

theorem findPair_eq (hgh : g.Alike R h) (a b : CellAddress) :
    h.findPair a b = g.findPair a b := by
  simp only [findPair, cellAt, hgh.lineAt_eq]

theorem findLines_eq (hgh : g.Alike R h) (axis : Axis) (i j : Number) :
    h.findLines axis i j = g.findLines axis i j := by
  simp only [findLines, hgh.lineAt_eq]

theorem growth_eq (hgh : g.Alike R h) (hne : 0 < g.columnCount) (axis : Axis) (n : Nat) :
    g.growth axis n = h.growth axis n := by
  rw [growth, growth, hgh.count_eq, (hgh.stretch hne axis n).size]

theorem insertion_eq (hgh : g.Alike R h) (axis : Axis) (n : Nat) :
    g.insertion axis n = h.insertion axis n := by
  rw [insertion, insertion, ← hgh.isEmpty_eq]
  split
  · rfl
  · next hne =>
    rw [isEmpty_iff_columnCount] at hne
    exact hgh.growth_eq (Nat.pos_of_ne_zero hne) axis.cross n

theorem collapse_eq (hgh : g.Alike R h) (axis : Axis) : g.collapse axis = h.collapse axis := by
  rw [collapse, collapse, hgh.isEmpty_eq]

theorem replacement_eq (hgh : g.Alike R h) (hi : i < g.count axis) {values : List (Option α)}
    {values' : List (Option β)} (hvalues : List.Forall₂ (Option.Rel R) values values') :
    g.replacement axis i values = h.replacement axis i values' := by
  have hslot := hgh.left.le_count_erase hi
  have herase := hgh.erase hi
  have hgrowth := (herase.insert hslot hvalues).growth_eq
    (herase.left.columnCount_insert_pos hslot values) axis.cross (g.count axis.cross)
  rw [replacement, replacement, herase.collapse_eq, herase.insertion_eq, hvalues.length_eq,
    hgrowth, hgh.count_eq]

theorem packCollapse_eq (hgh : g.Alike R h) (axis : Axis) (wanted : Bool) :
    g.packCollapse axis wanted = h.packCollapse axis wanted := by
  rw [packCollapse, packCollapse, hgh.isEmpty_eq, (hgh.packIf axis wanted).collapse_eq]

theorem packLoss_eq (hgh : g.Alike R h) (axis : Axis) (wanted : Bool) :
    g.packLoss axis wanted = h.packLoss axis wanted := by
  rw [packLoss, packLoss, hgh.count_eq, (hgh.packIf axis wanted).count_eq]

theorem packing_eq (hgh : g.Alike R h) (rows columns : Bool) :
    g.packing rows columns = h.packing rows columns := by
  have hrows := hgh.packIf .row rows
  rw [packing, packing, hgh.packCollapse_eq, hgh.packLoss_eq, hrows.packCollapse_eq,
    hrows.packLoss_eq]

theorem flipping_eq (hgh : g.Alike R h) : g.flipping = h.flipping := by
  rw [flipping, flipping, hgh.isEmpty_eq, hgh.size]

end Grid.Alike

/-! ## Edits -/

def Returned.map (f : α → β) : Returned α → Returned β
  | nothing => nothing
  | cell value => cell (value.map f)
  | line cells => line (cells.map (Option.map f))

inductive Returned.Alike (R : α → β → Prop) : Returned α → Returned β → Prop where
  | nothing : Alike R .nothing .nothing
  | cell {v : Option α} {w : Option β} : Option.Rel R v w → Alike R (.cell v) (.cell w)
  | line {cells : List (Option α)} {cells' : List (Option β)} :
    List.Forall₂ (Option.Rel R) cells cells' → Alike R (.line cells) (.line cells')

theorem mem_content {a : α} {cells : List (Option α)} : a ∈ content cells ↔ some a ∈ cells := by
  simp [content]

theorem rel_map {f : α → β} {v : Option α} (hf : ∀ a, v = some a → R a (f a)) :
    Option.Rel R v (v.map f) := by
  cases v with
  | none => exact .none
  | some a => exact .some (hf a rfl)

theorem forall₂_map {f : α → β} {cells : List (Option α)}
    (hf : ∀ a ∈ content cells, R a (f a)) :
    List.Forall₂ (Option.Rel R) cells (cells.map (Option.map f)) := by
  rw [List.forall₂_map_right_iff, List.forall₂_same]
  intro cell hcell
  refine rel_map fun a ha => hf a ?_
  rw [mem_content, ← ha]
  exact hcell

namespace Edit

open Editing

variable {g : Grid α} {h : Grid β}

def map (f : α → β) : Edit α → Edit β
  | setCell address value => setCell address (value.map f)
  | insert axis slot values => insert axis slot (values.map (Option.map f))
  | remove axis line => remove axis line
  | replace axis index values => replace axis index (values.map (Option.map f))
  | pack rows columns => pack rows columns
  | clear => clear
  | reverse axis => reverse axis
  | flip => flip
  | turn clockwise => turn clockwise
  | swapCells a b => swapCells a b
  | swapLines axis i j => swapLines axis i j

theorem map_id (edit : Edit α) : edit.map id = edit := by cases edit <;> simp [map]

theorem run_alike (hgh : g.Alike R h) (f : α → β) {edit : Edit α}
    (hf : ∀ a ∈ edit.supply, R a (f a)) :
    OutcomesAlike R (Returned.Alike R) (edit.run g) ((edit.map f).run h) := by
  cases edit with
  | setCell address value =>
    rw [run_setCell, map, run_setCell, hgh.findCell_eq]
    refine .of_attempt hgh fun p hp => ?_
    obtain ⟨hx, hy⟩ := Grid.findCell_lt hp
    have hvalue : Option.Rel R value (value.map f) := by
      refine rel_map fun a ha => hf a ?_
      simp [supply, ha]
    exact ⟨.cell (hgh.cell p.x p.y), hgh.setCell hx hy hvalue, rfl⟩
  | insert axis slot values =>
    rw [run_insert hgh.left, map, run_insert hgh.right, hgh.findSlot_eq]
    refine .of_attempt hgh fun i hi => ⟨.nothing, ?_, ?_⟩
    · exact hgh.insert (Grid.findSlot_le hi) (forall₂_map hf)
    · show g.insertion axis values.length = h.insertion axis _
      rw [List.length_map, hgh.insertion_eq]
  | remove axis line =>
    rw [run_remove, map, run_remove, hgh.findLine_eq]
    refine .of_attempt hgh fun i hi => ?_
    have hlt := Grid.findLine_lt hi
    exact ⟨.line (hgh.line hlt), hgh.erase hlt, (hgh.erase hlt).collapse_eq axis⟩
  | replace axis index values =>
    rw [run_replace hgh.left, map, run_replace hgh.right, hgh.lineAt_eq]
    refine .of_attempt hgh fun i hi => ?_
    have hlt := (Grid.lineAt_eq_ok_iff.1 hi).2
    exact ⟨.line (hgh.line hlt), hgh.replace hlt (forall₂_map hf),
      hgh.replacement_eq hlt (forall₂_map hf)⟩
  | pack rows columns =>
    rw [run_pack, map, run_pack]
    exact ⟨.ok .nothing, (hgh.packIf .row rows).packIf .column columns,
      hgh.packing_eq rows columns⟩
  | clear => exact ⟨.ok .nothing, .empty, rfl⟩
  | reverse axis => exact ⟨.ok .nothing, hgh.reverse axis, rfl⟩
  | flip =>
    rw [run_flip, map, run_flip]
    exact ⟨.ok .nothing, hgh.flip, hgh.flip.flipping_eq⟩
  | turn clockwise =>
    rw [run_turn, map, run_turn]
    exact ⟨.ok .nothing, hgh.flip.reverse _, hgh.flip.flipping_eq⟩
  | swapCells a b =>
    rw [run_swapCells, map, run_swapCells, hgh.findPair_eq]
    refine .of_attempt hgh fun pq hpq => ⟨.nothing, ?_, rfl⟩
    obtain ⟨⟨hpx, hpy⟩, hqx, hqy⟩ := Grid.findPair_lt hpq
    exact hgh.swapCells hpx hpy hqx hqy
  | swapLines axis i j =>
    rw [run_swapLines, map, run_swapLines, hgh.findLines_eq]
    refine .of_attempt hgh fun ij hij => ⟨.nothing, ?_, rfl⟩
    obtain ⟨hi, hj⟩ := Grid.findLines_lt hij
    exact hgh.swap hi hj

end Edit

/-! ## Sources and queries -/

namespace Source

def map (f : α → β) : Source α → Source β
  | empty => empty
  | ofSize columns rows => ofSize columns rows
  | ofLines axis lines => ofLines axis (lines.map (List.map (Option.map f)))

theorem requireEven_map (axis : Axis) (f : α → β) (lines : List (List (Option α))) :
    requireEven axis (lines.map (List.map (Option.map f))) = requireEven axis lines := by
  have hempty : (List.isEmpty ∘ List.map (Option.map f) : List (Option α) → Bool) =
      List.isEmpty := funext fun line => List.isEmpty_map
  simp only [requireEven, List.findIdx?_map, List.all_map, hempty]

theorem foldl_appendLine_alike {f : α → β} (hf : ∀ a, R a (f a)) (axis : Axis)
    (lines : List (List (Option α))) {d : Draft α} {d' : Draft β} (hgrid : d.grid.Alike R d'.grid)
    (hevents : d.events = d'.events) :
    let made := lines.foldl (appendLine axis) d
    let made' := (lines.map (List.map (Option.map f))).foldl (appendLine axis) d'
    made.grid.Alike R made'.grid ∧ made.events = made'.events := by
  induction lines generalizing d d' with
  | nil => exact ⟨hgrid, hevents⟩
  | cons line lines ih =>
    refine ih ?_ ?_
    · unfold appendLine
      rw [List.isEmpty_map]
      split
      · exact hgrid
      · rw [← hgrid.count_eq]
        exact hgrid.insert (Nat.le_refl _) (forall₂_map fun a _ => hf a)
    · unfold appendLine
      rw [List.isEmpty_map]
      split
      · exact hevents
      · rw [hevents, hgrid.insertion_eq, List.length_map]

theorem run_alike {f : α → β} (hf : ∀ a, R a (f a)) (source : Source α) :
    OutcomesAlike R (fun _ _ => True) source.run (source.map f).run := by
  cases source with
  | empty => exact ⟨.ok trivial, .empty, rfl⟩
  | ofSize columns rows =>
    rw [run_ofSize, map, run_ofSize]
    exact .of_attempt .empty fun size hsize =>
      ⟨trivial, .blank (zero_iff_of_requireSize hsize), rfl⟩
  | ofLines axis lines =>
    rw [run_ofLines, map, run_ofLines, requireEven_map]
    exact .of_attempt .empty fun _ _ => ⟨trivial, foldl_appendLine_alike hf axis lines .empty rfl⟩

end Source

inductive View.Alike (R : α → β → Prop) : View α → View β → Prop where
  | cell {v : Option α} {w : Option β} : Option.Rel R v w → Alike R (.cell v) (.cell w)
  | line {cells : List (Option α)} {cells' : List (Option β)} :
    List.Forall₂ (Option.Rel R) cells cells' → Alike R (.line cells) (.line cells')
  | lines {lines : List (List (Option α))} {lines' : List (List (Option β))} :
    List.Forall₂ (List.Forall₂ (Option.Rel R)) lines lines' → Alike R (.lines lines) (.lines lines')
  | span (span : Span) : Alike R (.span span) (.span span)
  | region (region : Region) (contained : List Bool) :
    Alike R (.region region contained) (.region region contained)
  | size (size : Position) : Alike R (.size size) (.size size)
  | entries {entries : List (Position × Option α)} {entries' : List (Position × Option β)} :
    List.Forall₂ (fun e e' => e.1 = e'.1 ∧ Option.Rel R e.2 e'.2) entries entries' →
      Alike R (.entries entries) (.entries entries')
  | truth (found found' : Bool) : Alike R (.truth found) (.truth found')
  | place (position position' : Option Position) : Alike R (.place position) (.place position')

namespace Query

def map (f : α → β) : Query α → Query β
  | cell address => cell address
  | line axis address => line axis address
  | lines axis => lines axis
  | span axis => span axis
  | region probes => region probes
  | size => size
  | values => values
  | entries => entries
  | contains value => contains (value.map f)
  | firstIndexOf value => firstIndexOf (value.map f)
  | lastIndexOf value => lastIndexOf (value.map f)

theorem map_id (query : Query α) : query.map id = query := by cases query <;> simp [map]

theorem resultsAlike_map {found : Except ε γ} {f : γ → View α} {f' : γ → View β}
    (hview : ∀ c, found = .ok c → View.Alike R (f c) (f' c)) :
    ResultsAlike (View.Alike R) (found.map f) (found.map f') := by
  cases found with
  | error fault => exact .error fault
  | ok c => exact .ok (hview c rfl)

theorem answer_alike [Content α] [Content β] {g : Grid α} {h : Grid β} (hgh : g.Alike R h)
    (f : α → β) (query : Query α) :
    ResultsAlike (View.Alike R) (query.answer g) ((query.map f).answer h) := by
  have hregion : h.region = g.region := by simp only [Grid.region, hgh.size]
  cases query with
  | cell address =>
    rw [answer, map, answer, hgh.findCell_eq]
    exact resultsAlike_map fun p _ => .cell (hgh.cell p.x p.y)
  | line axis address =>
    rw [answer, map, answer, hgh.findLine_eq]
    exact resultsAlike_map fun i hi => .line (hgh.line (Grid.findLine_lt hi))
  | lines axis => exact .ok (.lines (hgh.lines axis))
  | span axis =>
    rw [answer, map, answer, Grid.span, Grid.span, hgh.count_eq]
    exact .ok (.span _)
  | region probes =>
    rw [answer, map, answer, hregion]
    exact resultsAlike_map fun contained _ => .region g.region contained
  | size =>
    rw [answer, map, answer, hgh.size]
    exact .ok (.size _)
  | values => exact .ok (.line hgh.values)
  | entries => exact .ok (.entries hgh.entries)
  | contains value => exact .ok (.truth _ _)
  | firstIndexOf value => exact .ok (.place _ _)
  | lastIndexOf value => exact .ok (.place _ _)

end Query

end ElasticGrid
