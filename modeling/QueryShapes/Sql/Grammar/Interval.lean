import QueryShapes.Sql.Grammar.Nesting

/-!
# Lengths of time

- `Rule.interval`: what follows the word `INTERVAL`.
-/

namespace QueryShapes.Sql.Rule

open Reading

/-- The units that a length of time may be given in. -/
def intervalUnits : List String :=
  ["YEAR", "MONTH", "WEEK", "DAY", "HOUR", "MINUTE", "SECOND", "CENTURY", "DECADE", "DOW", "DOY",
    "EPOCH", "ISODOW", "ISOYEAR", "JULIAN", "MICROSECOND", "MICROSECONDS", "MILLENIUM", "MILLENNIUM",
    "MILLISECOND", "MILLISECONDS", "NANOSECOND", "NANOSECONDS", "QUARTER", "TIMEZONE",
    "TIMEZONE_HOUR", "TIMEZONE_MINUTE"]

def spacedParentheses? (item : Rule String) : Rule String := do
  let text ← inParentheses? item
  return if text.isEmpty then "" else " " ++ text

/-- The precision of seconds, and of their fractions. -/
def secondPrecision : Rule String := do
  let precision ← wholeNumber
  if ← symbol "," then return precision ++ ", " ++ (← wholeNumber) else return precision

/-- A second unit, which may be any part of a date or time. -/
def lastUnit : Rule String := do
  let unit ← timeUnit
  return unit ++ (← if unit == "SECOND" then spacedParentheses? wholeNumber else pure "")

/-- A value with its units, which may be left out. -/
def interval (g : Nesting) : Rule String := do
  let value ← g.length
  let unit ← keywordOf? intervalUnits
  let start := "INTERVAL " ++ value.render ++ (unit.map (" " ++ ·)).getD ""
  if unit == some "SECOND" then return start ++ (← spacedParentheses? secondPrecision)
  else
    let precision ← spacedParentheses? wholeNumber
    return start ++ precision ++ (← optionalText " TO " (keyword "TO") lastUnit)

end QueryShapes.Sql.Rule
