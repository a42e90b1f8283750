import ElasticGrid.Style.Basic
import ElasticGrid.Text.Blank
import ElasticGrid.Text.Escape

/-!
# Settings from the environment

The level of the journal and a layer of style can be given in variables of the
environment. A variable that is not there sets nothing. Delimiters are given in
escaped form, since variables hold line breaks badly; the absent marker is taken as
it is.
-/

namespace ElasticGrid

/-- The value of each variable that is set. -/
abbrev Environment := String → Option String

structure Settings where
  level : String
  style : StyleLayer
  deriving DecidableEq, Repr

namespace Settings

def standardLevel : String := "info"

/-- A level is given with any blanks around it; nothing but blanks is no level. -/
def readLevel (value : Option String) : String :=
  match value with
  | none => standardLevel
  | some s =>
    let level := String.ofList (Text.trim s.toList)
    if level = "" then standardLevel else level

def readDelimiter (value : String) : String := String.ofList (Text.unescape value.toList)

/-- The values `1` and `true`, in any letter case, are true, all others false; an empty value
is no answer. -/
def readTruth (value : String) : Option Bool :=
  if value = "" then none else some (value = "1" || value.toLower = "true")

def ofEnvironment (env : Environment) : Settings where
  level := readLevel (env "ELASTIC_MATRIX_LOG_LEVEL")
  style := {
    cellDelimiter := (env "ELASTIC_MATRIX_CELL_DELIMITER").map readDelimiter
    rowDelimiter := (env "ELASTIC_MATRIX_ROW_DELIMITER").map readDelimiter
    absentMarker := env "ELASTIC_MATRIX_ABSENT_MARKER"
    padCells := (env "ELASTIC_MATRIX_PAD_CELLS").bind readTruth
  }

end Settings

end ElasticGrid
