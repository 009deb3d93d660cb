import RecordFilter.Number.Numeral
import RecordFilter.Query.Delimiter
import RecordFilter.Query.Error
import RecordFilter.Text.Letter
import RecordFilter.Text.Percent
import RecordFilter.Text.Quoted

/-!
# From text to tokens

Each reader takes one token off the front of the text and returns the text behind it.  A reader
that fails names the place of the fault by the text that starts there, and still says where
reading would go on.
-/

namespace RecordFilter
namespace Query

/-- A fault and the text that starts at its place. -/
structure Misreading where
  fault : Fault
  place : List Char
deriving DecidableEq

structure Reading where
  outcome : Except Misreading TokenKind
  rest : List Char

/-!
# Readers
-/

def readString (text afterQuote : List Char) : Reading :=
  match Text.Quoted.scan afterQuote with
  | .closed content rest => ⟨.ok (.string (String.ofList content)), rest⟩
  | .unclosed => ⟨.error ⟨.unterminatedString, text⟩, []⟩
  | .badEscape escaped place rest => ⟨.error ⟨.invalidEscape escaped, place⟩, rest⟩

def isExponentMark (c : Char) : Bool :=
  c == 'e' || c == 'E'

/--
The run of characters that may belong to a number, and the text behind it.  A sign belongs to it
right behind an exponent mark.
-/
def numberRun (signAllowed : Bool) : List Char → List Char × List Char
  | [] => ([], [])
  | c :: rest =>
      if c.isDigit || c == '.' || isExponentMark c || (signAllowed && (c == '+' || c == '-')) then
        let (run, rest') := numberRun (isExponentMark c) rest
        (c :: run, rest')
      else ([], c :: rest)

/-- The run has to be a number from end to end. -/
def readNumber (text run rest : List Char) : Reading :=
  match Number.read run with
  | .ok (n, []) => ⟨.ok (.number n), rest⟩
  | _ => ⟨.error ⟨.invalidNumber (String.ofList run), text⟩, rest⟩

def readSignedNumber (text afterSign : List Char) : Reading :=
  let (run, rest) := numberRun false afterSign
  readNumber text ('-' :: run) rest

def readUnsignedNumber (text : List Char) : Reading :=
  let (run, rest) := numberRun false text
  readNumber text run rest

def targetOf (raw : List Char) : Except TargetFault Target :=
  match Text.Percent.decode? raw with
  | none => .error .notText
  | some decoded => (Target.parse (String.ofList decoded)).mapError .pointer

def readTarget (text : List Char) : Reading :=
  let raw := text.takeWhile fun c => !isDelimiter c
  let rest := text.dropWhile fun c => !isDelimiter c
  match targetOf raw with
  | .ok target => ⟨.ok (.target target), rest⟩
  | .error cause => ⟨.error ⟨.invalidTarget (String.ofList raw) cause, text⟩, rest⟩

def readWord (text : List Char) : Reading :=
  ⟨.ok (.ofWord (String.ofList (text.takeWhile Text.isWordPart))),
    text.dropWhile Text.isWordPart⟩

/-- Reads the token that starts with a given character. -/
def readToken (c : Char) (rest : List Char) : Reading :=
  if c = '(' then ⟨.ok .openGroup, rest⟩
  else if c = ')' then ⟨.ok .closeGroup, rest⟩
  else if c = '[' then ⟨.ok .openArray, rest⟩
  else if c = ']' then ⟨.ok .closeArray, rest⟩
  else if c = ',' then ⟨.ok .comma, rest⟩
  else if c = '"' then readString (c :: rest) rest
  else if c = '/' then readTarget (c :: rest)
  else if c = '-' then readSignedNumber (c :: rest) rest
  else if c.isDigit then readUnsignedNumber (c :: rest)
  else if Text.isWordStart c then readWord (c :: rest)
  else ⟨.error ⟨.unexpectedCharacter c, c :: rest⟩, c :: rest⟩

/-!
# The lexer

A lexer knows how long its whole text is, so that the text that is left gives the position.  It
can be called again after an error.
-/

structure Lexer where
  size : Nat
  rest : List Char
deriving DecidableEq

namespace Lexer

def ofText (text : List Char) : Lexer :=
  ⟨text.length, text⟩

/-- The position at which a given rest of the text starts. -/
def positionOf (lexer : Lexer) (rest : List Char) : Nat :=
  lexer.size - rest.length

def position (lexer : Lexer) : Nat :=
  lexer.positionOf lexer.rest

def next (lexer : Lexer) : Except QueryError (Option Token) × Lexer :=
  match lexer.rest.dropWhile Text.isBlank with
  | [] => (.ok none, { lexer with rest := [] })
  | c :: rest =>
      let reading := readToken c rest
      let result :=
        match reading.outcome with
        | .ok kind => .ok (some ⟨kind, lexer.positionOf (c :: rest)⟩)
        | .error e => .error ⟨e.fault, lexer.positionOf e.place⟩
      (result, { lexer with rest := reading.rest })

/-- Every token takes up a character, so the length of the text bounds the number of rounds. -/
def tokensWithin : Nat → Lexer → Except QueryError (List Token)
  | 0, _ => .ok []
  | rounds + 1, lexer =>
      match lexer.next with
      | (.ok none, _) => .ok []
      | (.ok (some token), lexer) => (tokensWithin rounds lexer).map (token :: ·)
      | (.error e, _) => .error e

end Lexer

def tokenize (text : List Char) : Except QueryError (List Token) :=
  (Lexer.ofText text).tokensWithin (text.length + 1)

end Query
end RecordFilter
