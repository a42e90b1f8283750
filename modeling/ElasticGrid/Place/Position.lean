import ElasticGrid.IndexFault

/-!
# Positions

A position is a pair of indexes: `x` counts columns, `y` counts rows. The size of a
grid is written as a position too: its number of columns and its number of rows.
-/

namespace ElasticGrid

structure Position where
  x : Nat
  y : Nat
  deriving DecidableEq, Repr

namespace Position

/-- The position with the given indexes; the `x` is looked at first. -/
def ofNumbers (x y : Number) : Except IndexFault Position := do
  let x ← x.requireIndex (.coordinate .column)
  let y ← y.requireIndex (.coordinate .row)
  return ⟨x, y⟩

/-- Whether two numbers, which may be any, are the indexes of the position. -/
def isAt (p : Position) (x y : Number) : Bool :=
  (Number.ofNat p.x).same x && (Number.ofNat p.y).same y

/-- A text that tells positions apart. -/
def key (p : Position) : String := s!"{p.x}:{p.y}"

def text (p : Position) : String := s!"[{p.x}, {p.y}]"

/-- Down a column before going on to the next one. -/
def Before (p q : Position) : Prop := p.x < q.x ∨ p.x = q.x ∧ p.y < q.y

instance (p q : Position) : Decidable (p.Before q) := inferInstanceAs (Decidable (_ ∨ _))

theorem Before.asymm {p q : Position} (h : p.Before q) : ¬q.Before p := by
  unfold Before at h ⊢
  omega

/-- The position with its axes exchanged. -/
def cross (p : Position) : Position := ⟨p.y, p.x⟩

end Position

end ElasticGrid
