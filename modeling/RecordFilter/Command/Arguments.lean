/-!
# Arguments

Options start with a hyphen and may stand before or behind the other arguments; two hyphens end
them.  A flag stands alone and an option takes a value, either attached to it or as the next
argument.  Each of them is given at most once.  Arguments are taken from left to right, and the
first one that has no place ends the reading.
-/

namespace RecordFilter
namespace Command

inductive Switch where
  | verbose
  | input
  | syntaxOnly
  | urlEncode
  | version
  | help
deriving DecidableEq

namespace Switch

def takesValue : Switch → Bool
  | input => true
  | _ => false

def ofShort? : Char → Option Switch
  | 'v' => some verbose
  | 'i' => some input
  | 'u' => some urlEncode
  | 'V' => some version
  | 'h' => some help
  | _ => none

def ofLong? (name : String) : Option Switch :=
  if name = "verbose" then some verbose
  else if name = "input" then some input
  else if name = "syntax-only" then some syntaxOnly
  else if name = "url-encode" then some urlEncode
  else if name = "version" then some version
  else if name = "help" then some help
  else none

end Switch

/-- Why the reading of arguments ends early: help and version end it at once. -/
inductive Stop where
  | misuse
  | asked (switch : Switch)
deriving DecidableEq

/-- What has been seen so far: switches with their values, and the arguments that are none. -/
structure Seen where
  switches : List (Switch × String) := []
  positionals : List String := []

namespace Seen

def has (seen : Seen) (switch : Switch) : Bool :=
  (seen.switches.lookup switch).isSome

def add (seen : Seen) (allowed : List Switch) (switch : Switch) (value : String) :
    Except Stop Seen :=
  if !allowed.contains switch then .error .misuse
  else if switch = .help ∨ switch = .version then .error (.asked switch)
  else if seen.has switch then .error .misuse
  else .ok { seen with switches := (switch, value) :: seen.switches }

/-- A command takes at most `places` arguments that are no switches. -/
def addPositional (places : Nat) (seen : Seen) (text : String) : Except Stop Seen :=
  if seen.positionals.length < places then
    .ok { seen with positionals := seen.positionals ++ [text] }
  else .error .misuse

end Seen

def looksLikeSwitch (argument : List Char) : Bool :=
  match argument with
  | '-' :: _ :: _ => true
  | _ => false

/-- The value of an option: the next argument, unless that looks like a switch. -/
def nextValue (rest : List String) : Except Stop (String × List String) :=
  match rest with
  | [] => .error .misuse
  | value :: rest =>
      if looksLikeSwitch value.toList then .error .misuse else .ok (value, rest)

/-- Reads the letters behind one hyphen. -/
def readShorts (allowed : List Switch) :
    List Char → List String → Seen → Except Stop (Seen × List String)
  | [], rest, seen => .ok (seen, rest)
  | c :: letters, rest, seen =>
      match Switch.ofShort? c with
      | none => .error .misuse
      | some switch =>
          if !allowed.contains switch then .error .misuse
          else if switch.takesValue then
            match letters with
            | [] => do
                let (value, rest) ← nextValue rest
                return (← seen.add allowed switch value, rest)
            | d :: more => do
                let value := if d = '=' then more else d :: more
                return (← seen.add allowed switch (String.ofList value), rest)
          else do
            readShorts allowed letters rest (← seen.add allowed switch "")

/-- Reads what stands behind two hyphens. -/
def readLong (allowed : List Switch) (body : List Char) (rest : List String) (seen : Seen) :
    Except Stop (Seen × List String) :=
  let name := body.takeWhile (· ≠ '=')
  let attached := body.dropWhile (· ≠ '=')
  match Switch.ofLong? (String.ofList name) with
  | none => .error .misuse
  | some switch =>
      if !allowed.contains switch then .error .misuse
      else
        match switch.takesValue, attached with
        | true, [] => do
            let (value, rest) ← nextValue rest
            return (← seen.add allowed switch value, rest)
        | true, _ :: value => do
            return (← seen.add allowed switch (String.ofList value), rest)
        | false, [] => do
            return (← seen.add allowed switch "", rest)
        | false, _ :: _ => .error .misuse

/-- Reads the arguments of a command; each round takes at least one of them. -/
def readArguments (allowed : List Switch) (places : Nat) :
    Nat → List String → Seen → Except Stop Seen
  | 0, _, seen => .ok seen
  | _ + 1, [], seen => .ok seen
  | rounds + 1, argument :: rest, seen =>
      match argument.toList with
      | ['-', '-'] => rest.foldlM (Seen.addPositional places) seen
      | '-' :: '-' :: body => do
          let (seen, rest) ← readLong allowed body rest seen
          readArguments allowed places rounds rest seen
      | '-' :: c :: letters => do
          let (seen, rest) ← readShorts allowed (c :: letters) rest seen
          readArguments allowed places rounds rest seen
      | _ => do
          let seen ← Seen.addPositional places seen argument
          readArguments allowed places rounds rest seen

end Command
end RecordFilter
