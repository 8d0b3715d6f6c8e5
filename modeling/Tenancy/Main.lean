import Tenancy.Admission.Service
import Tenancy.Config.Document
import Tenancy.Config.Policies

/-!
# Command line

Checks a configuration before anything is served: it is read and its policies are
made, and then the paths are listed at which they answer.
-/

namespace Tenancy.CommandLine

/-- Where the configuration is found if nothing is said. -/
def defaultConfigPath : String := "/etc/tenancy-policy/config.yaml"

/-- The path of the configuration among the arguments. -/
def configPath? : List String → Option String
  | [] => some defaultConfigPath
  | ["--config", path] => some path
  | [argument] =>
      let option := "--config=".toList
      if option.isPrefixOf argument.toList then
        some (String.ofList (argument.toList.drop option.length))
      else none
  | _ => none

/-- How the command is used. -/
def usage : String := "usage: tenancy-policy [--config <path>]"

/-- The lines that tell what a configuration serves. -/
def servedLines (path : String) (content : Option String) :
    Except Config.Fault (List String) := do
  let config ← Config.load path content
  let handlers ← config.policies
  return (Admission.ofHandlers handlers).policies.map fun policy =>
    "Serving policy " ++ policy ++ " at /" ++ policy

/-- The content of a file, if it can be read. -/
def readFile? (path : String) : IO (Option String) := do
  try
    return some (← IO.FS.readFile path)
  catch _ => return none

/-- Check the configuration at a path and list what it serves. -/
def run (path : String) : IO UInt32 := do
  match servedLines path (← readFile? path) with
  | .ok lines =>
      for line in lines do IO.println line
      return 0
  | .error fault =>
      IO.eprintln ("Error: " ++ Described.message fault)
      return 1

end Tenancy.CommandLine

/-- Check a configuration. -/
def main (arguments : List String) : IO UInt32 :=
  match Tenancy.CommandLine.configPath? arguments with
  | some path => Tenancy.CommandLine.run path
  | none => do
      IO.eprintln Tenancy.CommandLine.usage
      return 2
