import SqlCheck.FileTree
import SqlCheck.Pattern

/-! What can end a run early. A document with syntax errors is not among it when documents are only
checked, and a blank document never is. -/
namespace SqlCheck

inductive Failure where
  | noSuchFile (path : Text)
  | notAFile (path : Text)
  | noMatch (pattern : Text)
  | badPattern (pattern : Text) (place : Nat) (fault : PatternFault)
  | unreadable (document : Text) (fault : ReadFault)
  | unreadableConfig (path : Text) (fault : ReadFault)
  | unformattable (document : Text) (errors : Nat)
  | sinkFull
  deriving Repr, DecidableEq

def Failure.message : Failure → Text
  | noSuchFile path => "File does not exist: ".toList ++ path
  | notAFile path => "Not a file: ".toList ++ path
  | noMatch pattern => "No files match pattern: ".toList ++ pattern
  | badPattern pattern place fault =>
      "Invalid pattern ".toList ++ pattern ++ ": Pattern syntax error near position ".toList
        ++ Nat.toDigits 10 place ++ ": ".toList ++ fault.message
  | unreadable document fault =>
      "Failed to read ".toList ++ document ++ ": ".toList ++ fault.message
  | unreadableConfig path fault =>
      "Failed to read config ".toList ++ path ++ ": ".toList ++ fault.message
  | unformattable document errors =>
      "Cannot format ".toList ++ document ++ ": ".toList ++ Nat.toDigits 10 errors
        ++ " syntax error(s)".toList
  | sinkFull => "Failed to write output: sink full".toList

end SqlCheck
