import ElasticGrid.Number.Text
import ElasticGrid.Query
import ElasticGrid.Text.Units

/-!
# Cell values

The values of a sheet's cells: texts, numbers, truth values, whole numbers of any
size and objects, which are no more than what they are called by. Values of
different kinds are never the same, not even a number and an equal whole number.
-/

namespace ElasticGrid

inductive Value where
  | text (value : String)
  | number (value : Number)
  | truth (value : Bool)
  | whole (value : Int)
  | object (id : String)
  deriving DecidableEq, Repr

namespace Value

inductive Kind where
  | text
  | number
  | truth
  | whole
  | object
  deriving DecidableEq, Repr

def kind : Value → Kind
  | text _ => .text
  | number _ => .number
  | truth _ => .truth
  | whole _ => .whole
  | object _ => .object

/-- Equality of values; as for numbers, `nan` is not even the same as itself. -/
def same : Value → Value → Bool
  | text a, text b => a == b
  | number a, number b => a.same b
  | truth a, truth b => a == b
  | whole a, whole b => a == b
  | object a, object b => a == b
  | _, _ => false

/-- The text of a value. All objects look alike. -/
def toText : Value → String
  | text s => s
  | number n => n.text
  | truth true => "true"
  | truth false => "false"
  | whole n => toString n
  | object _ => "[object Object]"

instance : Content Value where
  same := same
  text := toText

/-! ### Tests on two values -/

def sameKind (a b : Value) : Bool := a.kind == b.kind

/-- Whether the text of the first is at most as wide as that of the second. -/
def notLonger (a b : Value) : Bool := Text.units a.toText.toList ≤ Text.units b.toText.toList

end Value

end ElasticGrid
