import ElasticGrid.Crosscut
import ElasticGrid.Style.Basic
import ElasticGrid.Text.Blank
import ElasticGrid.Text.Units

/-!
# Drawing

Columns are drawn as text, a line for each cell of the first column. Cells that a
shorter column lacks are drawn as nothing, those that a longer column has beyond the
last line count only for its width. What is blank at the end of a line, and at the
end of the whole text, is left out.
-/

namespace ElasticGrid

namespace Style

variable {α : Type}

def cellText (style : Style) (text : α → String) : Option α → List Char
  | none => style.absentMarker.toList
  | some value => (text value).toList

/-- The width of the widest text. -/
def width (texts : List (List Char)) : Nat := (texts.map Text.units).foldr max 0

/-- Brings the texts of a column to the width of the widest. -/
def padColumn (texts : List (List Char)) : List (List Char) :=
  texts.map (Text.padEnd (width texts))

/-- The texts of the cells, padded if the style says so. -/
def columnTexts (style : Style) (text : α → String) (columns : List (List (Option α))) :
    List (List (List Char)) :=
  let texts := columns.map fun column => column.map (style.cellText text)
  if style.padCells then texts.map padColumn else texts

/-- A line of cells, with all of its blanks. -/
def fullLine (style : Style) (cells : List (List Char)) : List Char :=
  style.cellDelimiter.toList.intercalate cells

/-- The lines of the texts, without the blanks that end them. -/
def textLines (style : Style) (texts : List (List (List Char))) : List (List Char) :=
  (crosscut [] (texts.headD []).length texts).map fun cells => Text.trimEnd (style.fullLine cells)

/-- The text made of some lines, without the blanks that end it. -/
def joinLines (style : Style) (lines : List (List Char)) : List Char :=
  Text.trimEnd (style.rowDelimiter.toList.intercalate lines)

/-- The picture of some columns, as long as they may be. -/
def draw (style : Style) (text : α → String) (columns : List (List (Option α))) : String :=
  String.ofList (style.joinLines (style.textLines (style.columnTexts text columns)))

theorem width_le_iff {texts : List (List Char)} {n : Nat} :
    width texts ≤ n ↔ ∀ s ∈ texts, Text.units s ≤ n := by
  induction texts with
  | nil => exact iff_of_true (Nat.zero_le n) fun s hs => absurd hs List.not_mem_nil
  | cons t texts ih =>
    show max (Text.units t) (width texts) ≤ n ↔ _
    rw [Nat.max_le, ih, List.forall_mem_cons]

theorem length_padColumn (texts : List (List Char)) : (padColumn texts).length = texts.length := by
  simp [padColumn]

@[simp] theorem draw_nil (style : Style) (text : α → String) : style.draw text [] = "" := by
  rw [draw, columnTexts]
  split <;> rfl

end Style

end ElasticGrid
