/-!
# Variables of the environment

- `Environment.setDefault_get?`: a variable that is set keeps its value.
-/

namespace QueryShapes

/-- Variables by name. Of one name the first counts. -/
abbrev Environment := List (String × String)

namespace Environment

def get? (environment : Environment) (name : String) : Option String := environment.lookup name

/-- Sets a variable unless it is set. -/
def setDefault (name value : String) (environment : Environment) : Environment :=
  if (environment.get? name).isSome then environment else environment ++ [(name, value)]

theorem setDefault_get? {environment : Environment} {name value kept : String}
    (h : environment.get? name = some kept) (other : String) :
    (environment.setDefault other value).get? name = some kept := by
  simp only [get?] at h
  by_cases set : (List.lookup other environment).isSome
  · simpa [setDefault, get?, set] using h
  · simp [setDefault, get?, set, List.lookup_append, h]

end Environment

end QueryShapes
