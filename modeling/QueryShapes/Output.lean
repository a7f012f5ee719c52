import QueryShapes.Json.Encoding

/-!
# Printed answers

- `Envelope.render`: an answer as JSON, where the members of objects are in the order of their
  names, or as lines of values with tabs between them.
-/

namespace QueryShapes

inductive OutputFormat
  | json | text
deriving DecidableEq

/-- The format of a name in any case. -/
def OutputFormat.ofName? (name : String) : Option OutputFormat :=
  match Text.lowercase name with
  | "json" => some json
  | "text" => some text
  | _ => none

namespace Envelope

def tabbed (texts : List String) : String := "\t".intercalate texts

/-- The header, the rows and their number; without rows there is no header. -/
def rowLines : List Row → List String
  | [] => ["(0 rows)"]
  | first :: rest =>
    let rs := first :: rest
    tabbed first.names :: rs.map (fun row => tabbed (row.values.map Value.display)) ++
      ["(" ++ toString rs.length ++ " rows)"]

def textLines : Envelope → List String
  | rows rs => rowLines rs
  | acknowledged ack => ["affectedRows\tinsertId", tabbed [toString ack.affectedRows, ack.insertId]]

def render (format : OutputFormat) (pretty : Bool) (envelope : Envelope) : String :=
  match format with
  | .json => if pretty then envelope.toJson.sorted.pretty else envelope.toJson.sorted.compact
  | .text => "\n".intercalate envelope.textLines

end Envelope

end QueryShapes
