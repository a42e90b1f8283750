/-!
# Width of a text

Widths count 16-bit code units: a character beyond the first 65536 code points is
two units wide.
-/

namespace ElasticGrid.Text

def unitsOf (c : Char) : Nat := if c.toNat < 0x10000 then 1 else 2

def units : List Char → Nat
  | [] => 0
  | c :: rest => unitsOf c + units rest

/-- Spaces on the right up to the width; a text that is wide enough stays as it is. -/
def padEnd (width : Nat) (s : List Char) : List Char :=
  s ++ List.replicate (width - units s) ' '

@[simp] theorem units_nil : units [] = 0 := rfl

@[simp] theorem units_append (s t : List Char) : units (s ++ t) = units s + units t := by
  induction s with
  | nil => simp
  | cons c rest ih => simp only [List.cons_append, units, ih]; omega

@[simp] theorem units_replicate_space (n : Nat) : units (List.replicate n ' ') = n := by
  induction n with
  | zero => rfl
  | succ n ih =>
    have one : unitsOf ' ' = 1 := rfl
    simp only [List.replicate_succ, units, ih, one]
    omega

@[simp] theorem padEnd_zero (s : List Char) : padEnd 0 s = s := by
  rw [padEnd, Nat.zero_sub, List.replicate_zero, List.append_nil]

theorem units_padEnd (width : Nat) (s : List Char) : units (padEnd width s) = max width (units s) := by
  simp [padEnd]; omega

end ElasticGrid.Text
