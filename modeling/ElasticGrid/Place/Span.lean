import ElasticGrid.IndexFault

/-!
# Spans

A span is a run of consecutive indexes, its start included and its stop not. The
list of a span and a fold over it go through the same indexes in rising order.
-/

namespace ElasticGrid

structure Span where
  start : Nat
  stop : Nat
  start_le_stop : start ≤ stop
  deriving DecidableEq, Repr

namespace Span

/-- The first `n` indexes. -/
def upTo (n : Nat) : Span := ⟨0, n, Nat.zero_le n⟩

def ofNumbers (start stop : Number) : Except IndexFault Span := do
  let start ← start.requireIndex .spanStart
  let stop ← stop.requireIndex .spanEnd
  if h : start ≤ stop then return ⟨start, stop, h⟩
  else throw (.reversedSpan start stop)

def size (s : Span) : Nat := s.stop - s.start

/-- Whether a number, which may be any, is one of the indexes. -/
def includes (s : Span) (n : Number) : Bool :=
  match n.toInt? with
  | some i => s.start ≤ i && i < s.stop
  | none => false

def toList (s : Span) : List Nat := List.range' s.start s.size

/-- Folds over `count` indexes from `index` on. -/
def foldFrom {β : Type} (f : β → Nat → β) : Nat → Nat → β → β
  | 0, _, b => b
  | count + 1, index, b => foldFrom f count (index + 1) (f b index)

/-- Goes through the indexes one by one. -/
def fold {β : Type} (s : Span) (f : β → Nat → β) (b : β) : β := foldFrom f s.size s.start b

def text (s : Span) : String := s!"[{s.start}, {s.stop})"

@[simp] theorem length_toList (s : Span) : s.toList.length = s.size := by simp [toList]

theorem mem_toList {s : Span} {i : Nat} : i ∈ s.toList ↔ s.start ≤ i ∧ i < s.stop := by
  have := s.start_le_stop
  simp only [toList, size, List.mem_range'_1]
  omega

theorem includes_ofNat (s : Span) (i : Nat) : s.includes (.ofNat i) = decide (i ∈ s.toList) := by
  simp [includes, mem_toList]

theorem foldFrom_eq_foldl_range' {β : Type} (f : β → Nat → β) (count index : Nat) (b : β) :
    foldFrom f count index b = (List.range' index count).foldl f b := by
  induction count generalizing index b with
  | zero => rfl
  | succ count ih => exact ih (index + 1) (f b index)

theorem fold_eq_foldl_toList {β : Type} (s : Span) (f : β → Nat → β) (b : β) :
    s.fold f b = s.toList.foldl f b :=
  foldFrom_eq_foldl_range' f s.size s.start b

end Span

end ElasticGrid
