import ElasticGrid.Grid.Basic

/-!
# Comparing two grids

Two grids are equal under a test when they have the same size and each cell of the
one matches the cell of the other at the same position: both absent, or both present
and accepted by the test. The comparison goes through the cells column by column,
stops at the first mismatch and keeps the pairs that it put to the test.
-/

namespace ElasticGrid

structure Comparison (α : Type) where
  equal : Bool
  calls : List (α × α)
  deriving DecidableEq, Repr

namespace Comparison

variable {α : Type}

/-- One object compared with itself: equal, and nothing was put to the test. -/
def identical : Comparison α := ⟨true, []⟩

/-- The outcome when a first pair was tested before all others. -/
def after (pair : α × α) (rest : Comparison α) : Comparison α := ⟨rest.equal, pair :: rest.calls⟩

/-- Compares cells pair by pair. -/
def ofCells (test : α → α → Bool) : List (Option α × Option α) → Comparison α
  | [] => identical
  | (none, none) :: rest => ofCells test rest
  | (some a, some b) :: rest =>
    if test a b then (ofCells test rest).after (a, b) else ⟨false, [(a, b)]⟩
  | (none, some _) :: _ => ⟨false, []⟩
  | (some _, none) :: _ => ⟨false, []⟩

end Comparison

namespace Grid

variable {α : Type}

def compare (test : α → α → Bool) (g h : Grid α) : Comparison α :=
  if g.size = h.size then .ofCells test (g.values.zip h.values) else ⟨false, []⟩

end Grid

end ElasticGrid
