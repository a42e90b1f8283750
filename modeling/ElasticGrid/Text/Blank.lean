import ElasticGrid.Trailing

/-!
# Blank characters

The characters that trimming takes away: the controls from tab to carriage return,
the spaces of every width, the line and paragraph separators and the byte order mark.
-/

namespace ElasticGrid.Text

/-- Inclusive ranges of code points. -/
def blankRanges : List (Nat × Nat) :=
  [(0x09, 0x0D), (0x20, 0x20), (0xA0, 0xA0), (0x1680, 0x1680), (0x2000, 0x200A), (0x2028, 0x2029),
    (0x202F, 0x202F), (0x205F, 0x205F), (0x3000, 0x3000), (0xFEFF, 0xFEFF)]

def isBlank (c : Char) : Bool :=
  blankRanges.any fun (first, last) => first ≤ c.toNat && c.toNat ≤ last

theorem all_isBlank_replicate (n : Nat) : (List.replicate n ' ').all isBlank := by
  rw [List.all_replicate]
  split <;> rfl

def trimEnd (s : List Char) : List Char := dropTrailing isBlank s

theorem trimEnd_append {t : List Char} (ht : t.all isBlank) (s : List Char) :
    trimEnd (s ++ t) = trimEnd s :=
  dropTrailing_append ht s

def trim (s : List Char) : List Char := trimEnd (s.dropWhile isBlank)

end ElasticGrid.Text
