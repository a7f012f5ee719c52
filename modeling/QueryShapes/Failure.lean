import QueryShapes.Fault
import QueryShapes.Url.Fault

/-!
# Failures

What a statement or the settings around it can fail with.

- `Failure.message`: the text that a failure is reported by.
-/

namespace QueryShapes

inductive ConfigurationFault
  | connectionString (fault : UrlFault)
  | scheme (name : String)
  | connectionLimit (text : String)
  | unknownConnection (name : String)
  | unreadableFile (reason : String)
  | malformedFile (path : String)
  | outputFormat (name : String)
  /-- A fault found outside the library. -/
  | reported (text : String)
deriving DecidableEq

def ConfigurationFault.message : ConfigurationFault → String
  | connectionString fault => "Invalid connection string: " ++ fault.message
  | scheme name => "Invalid scheme '" ++ name ++ "'. Expected 'mysql'"
  | connectionLimit text => "Invalid connection limit '" ++ text ++ "'"
  | unknownConnection name => "Unknown connection '" ++ name ++ "'"
  | unreadableFile reason => "Failed to read config file: " ++ reason
  | malformedFile path => "Configuration error in " ++ path ++ ":"
  | outputFormat name => "Invalid output format: " ++ name ++ ". Expected: json or text"
  | reported text => text

inductive Failure
  | engine (fault : Fault)
  | configuration (fault : ConfigurationFault)
deriving DecidableEq

namespace Failure

def category : Failure → String
  | engine _ => "Engine Fault"
  | configuration _ => "Configuration Error"

def message : Failure → String
  | engine fault => "Engine fault: " ++ fault.message
  | configuration fault => "Configuration error: " ++ fault.message

/-- The failure as it is printed. -/
def line (failure : Failure) : String := failure.category ++ ": " ++ failure.message

end Failure

end QueryShapes
