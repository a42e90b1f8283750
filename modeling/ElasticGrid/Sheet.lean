import ElasticGrid.Edit
import ElasticGrid.Grid.Compare
import ElasticGrid.Query
import ElasticGrid.Settings
import ElasticGrid.Source
import ElasticGrid.Style.Drawing
import ElasticGrid.Style.Layering

/-!
# Sheets

A sheet is a grid with a journal and a style of its own. The style stays plain data
until the sheet is drawn; only then it is looked at.
-/

namespace ElasticGrid

structure Sheet (α : Type) where
  grid : Grid α
  /-- The level of the journal, if the sheet has one. -/
  level : Option Level
  style : Datum

/-- How journal and style of a new sheet are given. -/
inductive Setup where
  | plain
  | styled (style : Datum)
  | configured (level : String) (style : Datum)
  | environment (env : Environment)

/-- Why something asked of a sheet was refused. -/
inductive Fault where
  | index (fault : IndexFault)
  | style (issues : List StyleIssue)
  | level (name : String)
  deriving DecidableEq, Repr

/-- The level of a name, or the fault that it has none. -/
def Level.require (name : String) : Except Fault Level :=
  match Level.ofName? name with
  | some level => .ok level
  | none => .error (.level name)

namespace Setup

/-- A sheet without cells, or the fault of a level that is none. Beside a level the style is a
record of its own, with what the given one holds. -/
def sheet {α : Type} : Setup → Except Fault (Sheet α)
  | .plain => .ok ⟨.empty, none, .null⟩
  | .styled style => .ok ⟨.empty, none, style⟩
  | .configured level style =>
    (Level.require level).map fun level => ⟨.empty, some level, .record style.fields⟩
  | .environment env =>
    let settings := Settings.ofEnvironment env
    (Level.require settings.level).map fun level => ⟨.empty, some level, settings.style.toDatum⟩

theorem sheet_configured {α : Type} {level : String} {accepted : Level}
    (hlevel : Level.ofName? level = some accepted) (style : Datum) :
    (configured level style).sheet =
      .ok (⟨.empty, some accepted, .record style.fields⟩ : Sheet α) := by
  simp only [sheet, Level.require, hlevel]; rfl

theorem sheet_environment {α : Type} {env : Environment} {accepted : Level}
    (hlevel : Level.ofName? (Settings.ofEnvironment env).level = some accepted) :
    (environment env).sheet =
      .ok (⟨.empty, some accepted, (Settings.ofEnvironment env).style.toDatum⟩ : Sheet α) := by
  simp only [sheet, Level.require, hlevel]; rfl

end Setup

namespace Sheet

variable {α : Type}

/-- The sheet that was never set up. -/
def blank : Sheet α := ⟨.empty, none, .null⟩

/-- The records that events leave in the journal. -/
def records (sheet : Sheet α) (events : List Event) : List Record :=
  match sheet.level with
  | none => []
  | some level => level.keep (events.map Event.record)

/-- The sheet with the grid of a draft, and what the journal keeps of its events. -/
def adopt (sheet : Sheet α) (draft : Draft α) : Sheet α × List Record :=
  (⟨draft.grid, sheet.level, sheet.style⟩, sheet.records draft.events)

/-- Draws the grid in the style of the sheet with one more layer on it. -/
def draw [Content α] (sheet : Sheet α) (overrides : Datum) : Except (List StyleIssue) String :=
  (Style.resolve [sheet.style, overrides]).map fun style =>
    style.draw Content.text sheet.grid.columns

end Sheet

end ElasticGrid
