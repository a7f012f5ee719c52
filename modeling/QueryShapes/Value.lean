import QueryShapes.Number.Shortest

/-!
# Values

The scalars that rows hold, with the two ways to order them.

- `compare?`: numbers compare as doubles, texts and dates by code points, booleans among
  themselves; values of different kinds do not compare.
- `sortOrder`: a total order that ranks the kinds and refines `compare?` inside each.
- `compare?_flip` and `sortOrder_flip`: both are reversed when their arguments are swapped.
-/

namespace QueryShapes

inductive Value
  | null
  | integer (n : Int64)
  | decimal (x : Double)
  | text (s : String)
  | date (s : String)
  | boolean (b : Bool)
deriving DecidableEq

namespace Value

def isNull : Value → Bool
  | null => true
  | _ => false

/-- The number that an integer or decimal stands for in comparisons. -/
def number? : Value → Option Double
  | integer n => some (.ofInt n.toInt)
  | decimal x => some x
  | _ => none

def isNumeric (v : Value) : Bool := v.number?.isSome

/-- The characters of a text or date. -/
def text? : Value → Option String
  | text s | date s => some s
  | _ => none

def boolean? : Value → Option Bool
  | boolean b => some b
  | _ => none

/-- Comparison of compatible kinds. -/
def compare? (a b : Value) : Option Ordering :=
  match a.number?, b.number? with
  | some x, some y => x.compare? y
  | _, _ => match a.text?, b.text? with
    | some s, some t => some (compare s t)
    | _, _ => match a.boolean?, b.boolean? with
      | some p, some q => some (compare p q)
      | _, _ => none

/-- The two values compare as equal. -/
def looselyEquals (a b : Value) : Bool := a.compare? b == some .eq

/-- Where a value's kind stands among the kinds. -/
def rank : Value → Nat
  | null => 0
  | boolean _ => 1
  | integer _ | decimal _ => 2
  | text _ | date _ => 3

/-- The order used for sorting. -/
def sortOrder (a b : Value) : Ordering :=
  match a.number?, b.number? with
  | some x, some y => x.totalOrder y
  | _, _ => (a.compare? b).getD (compare a.rank b.rank)

/-- Equality of kind and content, where decimals are equal as numbers are. -/
def equals : Value → Value → Bool
  | decimal x, decimal y => x.equals y
  | a, b => a = b

/-- The plain text of a value. -/
def display : Value → String
  | null => "NULL"
  | integer n => toString n.toInt
  | decimal x => x.text
  | text s | date s => s
  | boolean b => if b then "true" else "false"

theorem compare?_flip (a b : Value) : b.compare? a = (a.compare? b).map Ordering.swap := by
  unfold compare?
  generalize a.number? = x, b.number? = y, a.text? = s, b.text? = t, a.boolean? = p,
    b.boolean? = q
  cases x <;> cases y
  case some.some x y => exact Double.compare?_flip x y
  all_goals
    cases s <;> cases t
    case some.some s t => exact congrArg some Std.OrientedOrd.eq_swap
    all_goals
      cases p <;> cases q
      case some.some p q => exact congrArg some Std.OrientedOrd.eq_swap
      all_goals rfl

theorem sortOrder_flip (a b : Value) : b.sortOrder a = (a.sortOrder b).swap := by
  unfold sortOrder
  cases ha : a.number? <;> cases hb : b.number? <;>
    first
      | exact Double.totalOrder_flip _ _
      | (simp only [compare?_flip a b]
         cases a.compare? b <;> simp [Std.OrientedOrd.eq_swap (a := b.rank)])

end Value

end QueryShapes
