import ElasticGrid.Datum

/-!
# The journal

A journal takes records from a least severity on, or none at all. The names of the
severities may be written in any letter case; `silent` is only written one way. Some more
names are taken for levels although they have no rank: no record reaches such a level, and
it has no name of its own to tell.
-/

namespace ElasticGrid

inductive Severity where
  | trace
  | debug
  | info
  | warn
  | error
  | fatal
  deriving DecidableEq, Repr

namespace Severity

def all : List Severity := [trace, debug, info, warn, error, fatal]

def rank : Severity → Nat
  | trace => 10
  | debug => 20
  | info => 30
  | warn => 40
  | error => 50
  | fatal => 60

def name : Severity → String
  | trace => "trace"
  | debug => "debug"
  | info => "info"
  | warn => "warn"
  | error => "error"
  | fatal => "fatal"

def ofName? (name : String) : Option Severity := all.find? fun severity => severity.name == name

end Severity

/-- Which records a journal takes. -/
inductive Level where
  | silent
  | atLeast (severity : Severity)
  | unranked
  deriving DecidableEq, Repr

namespace Level

def name? : Level → Option String
  | silent => some "silent"
  | atLeast severity => some severity.name
  | unranked => none

/-- Names that are taken for levels, without a rank. -/
def unrankedNames : List String :=
  ["constructor", "hasOwnProperty", "isPrototypeOf", "propertyIsEnumerable", "toLocaleString",
    "toString", "valueOf", "__defineGetter__", "__defineSetter__", "__lookupGetter__",
    "__lookupSetter__", "__proto__"]

/-- Any letter case will do for a name in small letters, `silent` apart. -/
def ofName? (name : String) : Option Level :=
  if name = "silent" then some silent
  else if name ∈ unrankedNames ∨ name.toLower ∈ unrankedNames then some unranked
  else (Severity.ofName? name.toLower).map atLeast

/-- What is said about a name that is no level. -/
def refusal (name : String) : String := s!"default level:{name} must be included in custom levels"

def accepts : Level → Severity → Bool
  | silent, _ => false
  | atLeast least, severity => least.rank ≤ severity.rank
  | unranked, _ => false

end Level

/-- One line of a journal. -/
structure Record where
  severity : Severity
  fields : List (String × Datum)
  message : String
  deriving Repr

namespace Record

/-- The name of the writer, which every record carries. -/
def origin : String := "elastic-matrix"

end Record

/-- What a journal of the given level keeps of some records. -/
def Level.keep (level : Level) (records : List Record) : List Record :=
  records.filter fun record => level.accepts record.severity

theorem Level.accepts_debug_iff {level : Level} :
    level.accepts .debug ↔ level = atLeast .trace ∨ level = atLeast .debug := by
  rcases level with _ | severity | _
  · simp [accepts]
  · cases severity <;> simp [accepts, Severity.rank]
  · simp [accepts]

end ElasticGrid
