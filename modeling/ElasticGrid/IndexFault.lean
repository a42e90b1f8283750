import ElasticGrid.Axis
import ElasticGrid.Datum
import ElasticGrid.Number.Text

/-!
# Indexes that are refused

`IndexFault` lists the ways in which an index, a position or a size can be refused.
Its report has a message, the index at fault and, where the index was compared with
an upper bound, that bound.
-/

namespace ElasticGrid

/-- What an index is asked for. -/
inductive Role where
  | plain
  | coordinate (axis : Axis)
  | spanStart
  | spanEnd
  | line (axis : Axis)
  | lineCount (axis : Axis)
  | named (title : String)
  deriving DecidableEq, Repr

def Role.title : Role → String
  | plain => "Index"
  | coordinate axis => axis.letter ++ " coordinate"
  | spanStart => "Range start"
  | spanEnd => "Range end"
  | line axis => axis.title
  | lineCount axis => axis.title ++ " count"
  | named title => title

inductive IndexFault where
  /-- A number that is no index at all. -/
  | notAnIndex (role : Role) (number : Number)
  /-- A line that the grid does not have. -/
  | noSuchLine (axis : Axis) (index total : Nat)
  /-- A place for a new line that would leave a gap. -/
  | noSuchSlot (axis : Axis) (index total : Nat)
  /-- A size with a zero in one dimension only. -/
  | flatSize (columns rows : Nat)
  /-- An empty line among lines that are not all empty. -/
  | emptyLine (axis : Axis) (position : Nat)
  /-- A span that ends before it starts. -/
  | reversedSpan (start stop : Nat)
  /-- A region that ends before it starts along an axis. -/
  | reversedRegion (axis : Axis) (start stop : Nat)
  deriving DecidableEq, Repr

namespace IndexFault

def message : IndexFault → String
  | notAnIndex role number => s!"{role.title} out of bounds: {number.text}"
  | noSuchLine axis index total => s!"{axis.title} {index} doesn't exist in a total of {total}"
  | noSuchSlot axis index total => s!"{axis.title} {index} can't be added having a total of {total}"
  | flatSize columns rows => s!"The matrix size can't be zero in one dimension: {columns}x{rows}"
  | emptyLine axis position =>
    s!"{axis.title} {position} is empty; the matrix size can't be zero in one dimension"
  | reversedSpan start stop => s!"Range start {start} is past its end {stop}"
  | reversedRegion axis start stop => s!"Block {axis.letter} range {start}..{stop} is negative"

/-- The number at fault. -/
def index : IndexFault → Number
  | notAnIndex _ number => number
  | noSuchLine _ index _ => .ofNat index
  | noSuchSlot _ index _ => .ofNat index
  | flatSize _ _ => .ofNat 0
  | emptyLine _ position => .ofNat position
  | reversedSpan start _ => .ofNat start
  | reversedRegion _ start _ => .ofNat start

/-- The bound that the index was compared with. -/
def limit : IndexFault → Option Nat
  | notAnIndex _ _ => none
  | noSuchLine _ _ total => some total
  | noSuchSlot _ _ total => some (total + 1)
  | flatSize _ _ => none
  | emptyLine _ _ => none
  | reversedSpan _ stop => some stop
  | reversedRegion _ _ stop => some stop

end IndexFault

/-- What is told about a refused index. -/
structure IndexReport where
  message : String
  index : Number
  limit : Option Number
  deriving DecidableEq, Repr

namespace IndexReport

/-- The name under which reports are known. -/
def name : String := "MatrixIndexOutOfRangeError"

end IndexReport

def IndexFault.report (fault : IndexFault) : IndexReport :=
  ⟨fault.message, fault.index, fault.limit.map .ofNat⟩

/-- Anything that a failing operation may raise: data that is no error, or an error
with a name and possibly an index. -/
inductive Raised where
  | data (value : Datum)
  | error (name : Datum) (index : Option Datum)

/-- Whether it is told apart as a report on an index. -/
def Raised.isIndexReport : Raised → Bool
  | error (.text name) (some (.number _)) => name == IndexReport.name
  | _ => false

def IndexReport.raised (report : IndexReport) : Raised :=
  .error (.text name) (some (.number report.index))

@[simp] theorem IndexReport.isIndexReport_raised (report : IndexReport) :
    report.raised.isIndexReport = true := by
  simp [raised, Raised.isIndexReport]

/-- The index that a number stands for; anything else is refused in the given role. -/
def Number.requireIndex (role : Role) (number : Number) : Except IndexFault Nat :=
  match number.toIndex? with
  | some index => .ok index
  | none => .error (.notAnIndex role number)

theorem Number.requireIndex_eq_ok_iff {role : Role} {number : Number} {index : Nat} :
    number.requireIndex role = .ok index ↔ number.toIndex? = some index := by
  unfold requireIndex
  split <;> simp_all

end ElasticGrid
