import RecordFilter.Command.Arguments
import RecordFilter.Command.Basic
import RecordFilter.Command.Overview
import RecordFilter.Pattern.Engine

/-!
# The command line

The arguments name one command with its query and options.  Arguments that make no sense end the
program with code 2, and faulty queries and records with code 1.
-/

namespace RecordFilter
namespace Command

/-- What the arguments ask for. -/
inductive Invocation where
  | check (query : String) (input : Option String) (syntaxOnly : Bool)
  | format (query : String) (style : Style)
  | docs
  | version
  | help
deriving DecidableEq

/-!
# Commands
-/

def commandNames : List String := ["check", "format", "docs", "help"]

/-- Help on all commands or on one of them. -/
def readHelp (topics : List String) : Except Stop Invocation :=
  match topics with
  | [] => .ok .help
  | [topic] => if commandNames.contains topic then .ok .help else .error .misuse
  | _ => .error .misuse

def readCommand (name : String) (arguments : List String) : Except Stop Invocation := do
  let read := fun places allowed =>
    readArguments allowed places arguments.length arguments {}
  if name = "check" then
    let seen ← read 1 [.verbose, .input, .syntaxOnly, .help]
    match seen.positionals with
    | [query] =>
        return .check query (seen.switches.lookup .input) (seen.has .syntaxOnly)
    | _ => throw .misuse
  else if name = "format" then
    let seen ← read 1 [.verbose, .urlEncode, .help]
    match seen.positionals with
    | [query] => return .format query (if seen.has .urlEncode then .encoded else .plain)
    | _ => throw .misuse
  else if name = "docs" then
    let _ ← read 0 [.verbose, .help]
    return .docs
  else if name = "help" then readHelp arguments
  else throw .misuse

/-- Reads the switches before the name of the command. -/
def readGlobal : List String → Seen → Except Stop Invocation
  | [], _ => .error .misuse
  | argument :: rest, seen => do
      let allowed := [Switch.verbose, .version, .help]
      match argument.toList with
      | ['-', '-'] => throw .misuse
      | '-' :: '-' :: body =>
          let (seen, _) ← readLong allowed body [] seen
          readGlobal rest seen
      | '-' :: c :: letters =>
          let (seen, _) ← readShorts allowed (c :: letters) [] seen
          readGlobal rest seen
      | _ => readCommand argument rest

/-- What the arguments ask for, or nothing if they make no sense. -/
def Invocation.ofArguments? (arguments : List String) : Option Invocation :=
  match readGlobal arguments {} with
  | .ok invocation => some invocation
  | .error (.asked .version) => some .version
  | .error (.asked _) => some .help
  | .error .misuse => none

/-!
# Results

A program ends with a code and has written to its two outputs.
-/

structure Outcome where
  code : Nat
  output : String := ""
  errors : String := ""
deriving DecidableEq

namespace Outcome

def ofResult : Except CommandError String → Outcome
  | .ok output => { code := 0, output := output }
  | .error e =>
      let line := match e with
        | .json _ => e.message
        | _ => e.message ++ "\n"
      { code := 1, errors := line }

end Outcome

def CheckResult.output : CheckResult → String
  | syntaxValid text => "Syntax is valid: " ++ text ++ "\n"
  | matched records => String.join (records.map fun record => record.compact ++ "\n")

def versionText : String := "pfilter 0.1.0\n"

/--
Runs an invocation, given what can be read from the standard input.  Patterns are built by the
engine of the program.
-/
def Invocation.run (invocation : Invocation) (standardInput : Option String) : Outcome :=
  match invocation with
  | .check query input syntaxOnly =>
      let options : CheckOptions :=
        { query := query, input := input.or standardInput, syntaxOnly := syntaxOnly }
      Outcome.ofResult ((Command.check options).map CheckResult.output)
  | .format query style => Outcome.ofResult ((Command.format query style).map (· ++ "\n"))
  | .docs => { code := 0, output := overview }
  | .version => { code := 0, output := versionText }
  | .help => { code := 0 }

def run (arguments : List String) (standardInput : Option String) : Outcome :=
  match Invocation.ofArguments? arguments with
  | some invocation => invocation.run standardInput
  | none => { code := 2 }

end Command
end RecordFilter
