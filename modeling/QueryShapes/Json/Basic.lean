/-!
# JSON values

- `Json.sorted`: the same value with the members of every object in the order of their names.
- `sortedElements_eq`, `sortedMembers_eq`: elements and members are sorted one by one.
-/

namespace QueryShapes

/-- A JSON value. Members keep their order, and numbers the way they are written. -/
inductive Json
  | null
  | boolean (b : Bool)
  | number (text : String)
  | string (s : String)
  | array (elements : List Json)
  | object (members : List (String × Json))
  /-- A string, or an object with a name, in which half of a surrogate pair stands alone. -/
  | garbled

namespace Json

/-- Inserts a member before the first one with a greater name. -/
def insertMember (member : String × Json) : List (String × Json) → List (String × Json)
  | [] => [member]
  | first :: rest =>
    if first.1 ≤ member.1 then first :: insertMember member rest else member :: first :: rest

def sortMembers (members : List (String × Json)) : List (String × Json) :=
  members.foldr insertMember []

mutual

def sorted : Json → Json
  | array elements => array (sortedElements elements)
  | object members => object (sortMembers (sortedMembers members))
  | value => value

def sortedElements : List Json → List Json
  | [] => []
  | first :: rest => first.sorted :: sortedElements rest

def sortedMembers : List (String × Json) → List (String × Json)
  | [] => []
  | (name, value) :: rest => (name, value.sorted) :: sortedMembers rest

end

theorem sortedElements_eq (elements : List Json) : sortedElements elements = elements.map sorted := by
  induction elements with
  | nil => rfl
  | cons first rest ih => rw [sortedElements, ih, List.map_cons]

theorem sortedMembers_eq (members : List (String × Json)) :
    sortedMembers members = members.map fun member => (member.1, member.2.sorted) := by
  induction members with
  | nil => rfl
  | cons first rest ih => rw [sortedMembers, ih, List.map_cons]

/-- The value of a member. -/
def member? (members : List (String × Json)) (name : String) : Option Json :=
  (members.find? (·.1 = name)).map Prod.snd

end Json

end QueryShapes
