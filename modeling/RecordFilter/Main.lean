import RecordFilter.Command.Line

/-!
# The program

Standard input is read only by a check that needs it, and never from a terminal.
-/

namespace RecordFilter
namespace Command

/-- The records that a check takes from the environment or from the standard input. -/
def Invocation.fetchInput (invocation : Invocation) : IO (Option String) := do
  match invocation with
  | .check _ none syntaxOnly =>
      match ← IO.getEnv "PFILTER_INPUT" with
      | some input => return some input
      | none =>
          let stdin ← IO.getStdin
          if syntaxOnly || (← stdin.isTty) then return none
          else return some (← stdin.readToEnd)
  | _ => return none

end Command
end RecordFilter

open RecordFilter Command in
def main (arguments : List String) : IO UInt32 := do
  match Invocation.ofArguments? arguments with
  | none => return 2
  | some invocation =>
      let outcome := invocation.run (← invocation.fetchInput)
      IO.print outcome.output
      IO.eprint outcome.errors
      return outcome.code.toUInt32
