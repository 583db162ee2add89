import ChatScript.Disk
import ChatScript.Execution.Failure
import ChatScript.ParseError

/-!
# What a command can fail with

The failures that end a command of the command line, with their wording and the exit code that
tells their kinds apart.
-/

namespace ChatScript

/-- What can be wrong with the files a command is told to use. -/
inductive ConfigTrouble where
  | unreadable (path : String) (fault : DiskFault)
  | invalid (path : String)
  | invalidCounters (path : String)
  | invalidLog (path : String)
  deriving DecidableEq, Repr

/-- Why a command failed. -/
inductive Trouble where
  | parse (error : ParseError)
  | execution (detail : ErrorDetail)
  | config (cause : ConfigTrouble)
  | disk (fault : DiskFault)
  | json
  deriving DecidableEq, Repr

/-- The wording of what is wrong with a file. -/
def ConfigTrouble.message : ConfigTrouble → String
  | .unreadable path fault => "cannot read " ++ path ++ ": " ++ fault.message
  | .invalid path => "invalid " ++ path
  | .invalidCounters path => "invalid counter file " ++ path
  | .invalidLog path => "invalid log file " ++ path

namespace Trouble

/-- The wording of a failure. A parse error shows the line at fault. -/
def message : Trouble → String
  | .parse error => error.display ++ "\n  " ++ error.line.repr ++ " | " ++ error.sourceLine
  | .execution detail => "Execution failed: " ++ detail.message
  | .config cause => "Config error: " ++ cause.message
  | .disk fault => "IO error: " ++ fault.message
  | .json => "JSON error"

/-- The exit code of a command that failed. -/
def exitCode : Trouble → Nat
  | .parse _ => 2
  | .execution _ => 3
  | .disk _ => 4
  | .config _ | .json => 5

end Trouble

end ChatScript
