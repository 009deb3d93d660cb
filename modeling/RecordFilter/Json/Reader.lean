import RecordFilter.Json.Basic
import RecordFilter.Number.Numeral
import RecordFilter.Text.Hex

/-!
# Reading values

A reader takes a value off the front of a text and returns what is left.  A text that stops too
early is told apart from one that goes wrong.  Arrays and objects nest at most 127 deep.
-/

namespace RecordFilter
namespace Json

abbrev Reader (α : Type) := List Char → Except ReadError (α × List Char)

def isBlank (c : Char) : Bool :=
  c == ' ' || c == '\n' || c == '\t' || c == '\r'

def skipBlank (text : List Char) : List Char :=
  text.dropWhile isBlank

/-!
# Strings

An escape of four hexadecimal digits names a unit of UTF-16.  Two surrogates that belong together
name one character; any other surrogate is refused.
-/

def isLeading (unit : Nat) : Bool :=
  decide (0xd800 ≤ unit) && decide (unit < 0xdc00)

def isTrailing (unit : Nat) : Bool :=
  decide (0xdc00 ≤ unit) && decide (unit < 0xe000)

def pairedPoint (leading trailing : Nat) : Nat :=
  0x10000 + (leading - 0xd800) * 0x400 + (trailing - 0xdc00)

def simpleEscape? (c : Char) : Option Char :=
  if c = '"' ∨ c = '\\' ∨ c = '/' then some c
  else if c = 'b' then some '\x08'
  else if c = 'f' then some '\x0c'
  else if c = 'n' then some '\n'
  else if c = 'r' then some '\r'
  else if c = 't' then some '\t'
  else none

/-- The fault of text that lacks four hexadecimal digits: four bytes are looked at together. -/
def hexFault (text : List Char) : ReadError :=
  if (String.ofList text).utf8ByteSize < 4 then .endOfText else .malformed

def push (c : Char) : Except ReadError (List Char × List Char) →
    Except ReadError (List Char × List Char)
  | .ok (content, rest) => .ok (c :: content, rest)
  | .error e => .error e

/-- Reads the rest of a string behind its opening quote. -/
def readText : List Char → Except ReadError (List Char × List Char)
  | [] => .error .endOfText
  | c :: rest =>
      if c = '"' then .ok ([], rest)
      else if c = '\\' then
        match rest with
        | [] => .error .endOfText
        | 'u' :: h₁ :: h₂ :: h₃ :: h₄ :: after =>
            match Text.readHex? [h₁, h₂, h₃, h₄] with
            | none => .error .malformed
            | some unit =>
                if isTrailing unit then .error .malformed
                else if isLeading unit then
                  match after with
                  | '\\' :: 'u' :: l₁ :: l₂ :: l₃ :: l₄ :: after' =>
                      match Text.readHex? [l₁, l₂, l₃, l₄] with
                      | none => .error .malformed
                      | some low =>
                          if isTrailing low then
                            push (Char.ofNat (pairedPoint unit low)) (readText after')
                          else .error .malformed
                  | '\\' :: 'u' :: short => .error (hexFault short)
                  | ['\\'] => .error .endOfText
                  | [] => .error .endOfText
                  | _ => .error .malformed
                else push (Char.ofNat unit) (readText after)
        | 'u' :: short => .error (hexFault short)
        | e :: rest' =>
            match simpleEscape? e with
            | some decoded => push decoded (readText rest')
            | none => .error .malformed
      else if c.toNat < 0x20 then .error .malformed
      else push c (readText rest)

def readString : Reader String := fun text => do
  let (content, rest) ← readText text
  return (String.ofList content, rest)

/-!
# Words, arrays and objects

The readers of containers start behind the opening bracket and are given the reader of the values
inside.  Every value takes up at least one character, so the length of the text bounds the number
of rounds.
-/

def readWord (value : Json) : List Char → Reader Json
  | [], text => .ok (value, text)
  | _ :: _, [] => .error .endOfText
  | c :: word, d :: text => if c = d then readWord value word text else .error .malformed

def readItems (item : Reader Json) : Nat → Reader (List Json)
  | 0, _ => .error .endOfText
  | rounds + 1, text => do
      let (first, rest) ← item text
      match skipBlank rest with
      | [] => throw .endOfText
      | c :: rest =>
          if c = ']' then return ([first], rest)
          else if c = ',' then
            let (others, rest) ← readItems item rounds rest
            return (first :: others, rest)
          else throw .malformed

def readArray (item : Reader Json) : Reader Json := fun text =>
  match skipBlank text with
  | [] => .error .endOfText
  | c :: rest =>
      if c = ']' then .ok (.array [], rest)
      else do
        let (items, rest) ← readItems item text.length (c :: rest)
        return (.array items, rest)

def readColon (text : List Char) : Except ReadError (List Char) :=
  match skipBlank text with
  | [] => .error .endOfText
  | c :: rest => if c = ':' then .ok rest else .error .malformed

def readKey (text : List Char) : Except ReadError (String × List Char) :=
  match skipBlank text with
  | [] => .error .endOfText
  | c :: rest => if c = '"' then readString rest else .error .malformed

def readMembers (item : Reader Json) : Nat → Reader (List (String × Json))
  | 0, _ => .error .endOfText
  | rounds + 1, text => do
      let (key, rest) ← readKey text
      let rest ← readColon rest
      let (value, rest) ← item rest
      match skipBlank rest with
      | [] => throw .endOfText
      | c :: rest =>
          if c = '\x7d' then return ([(key, value)], rest)
          else if c = ',' then
            let (others, rest) ← readMembers item rounds rest
            return ((key, value) :: others, rest)
          else throw .malformed

def readObject (item : Reader Json) : Reader Json := fun text =>
  match skipBlank text with
  | [] => .error .endOfText
  | c :: rest =>
      if c = '\x7d' then .ok (.object [], rest)
      else do
        let (members, rest) ← readMembers item text.length (c :: rest)
        return (.object (Members.ofList members), rest)

/-!
# Values
-/

/-- Reads one value, given how to go on behind an opening bracket or brace. -/
def readWith (array object : Reader Json) : Reader Json := fun text =>
  match skipBlank text with
  | [] => .error .endOfText
  | c :: rest =>
      if c = '"' then do
        let (s, rest) ← readString rest
        return (.string s, rest)
      else if c = '-' ∨ c.isDigit then do
        let (n, rest) ← Number.read (c :: rest)
        return (.number n, rest)
      else if c = 'n' then readWord .null ['u', 'l', 'l'] rest
      else if c = 't' then readWord (.bool true) ['r', 'u', 'e'] rest
      else if c = 'f' then readWord (.bool false) ['a', 'l', 's', 'e'] rest
      else if c = '[' then array rest
      else if c = '\x7b' then object rest
      else .error .malformed

/-- Reads a value whose arrays and objects nest at most `depth` deep. -/
def readNested : Nat → Reader Json
  | 0 => readWith (fun _ => .error .malformed) (fun _ => .error .malformed)
  | depth + 1 => readWith (readArray (readNested depth)) (readObject (readNested depth))

def maxDepth : Nat := 127

def readValue : Reader Json :=
  readNested maxDepth

/-- Reads what makes up the whole text, white space at both ends aside. -/
def readWhole {α : Type} (reader : Reader α) (text : List Char) : Except ReadError α := do
  let (value, rest) ← reader (skipBlank text)
  if (skipBlank rest).isEmpty then return value else throw .malformed

def parse (text : List Char) : Except ReadError Json :=
  readWhole readValue text

/--
Reads a value that has to be a number.  Words and strings are read to their end before they are
refused, so one that stops too early is reported as such; containers are refused at once.
-/
def readNumber : Reader Number := fun text => do
  match ← readNested 0 text with
  | (.number n, rest) => return (n, rest)
  | _ => throw .malformed

def parseNumber (text : List Char) : Except ReadError Number :=
  readWhole readNumber text

/-!
# Streams of records

Records may follow each other without a break as long as one can see where each of them ends: a
bare word or number needs white space or punctuation behind it.
-/

def isDelimited (text : List Char) : Bool :=
  match skipBlank text with
  | c :: _ => c == '[' || c == '"' || c == '\x7b'
  | [] => false

def endsBare (rest : List Char) : Bool :=
  match rest with
  | [] => true
  | c :: _ =>
      isBlank c || c == '"' || c == '[' || c == ']' || c == '\x7b' || c == '\x7d' ||
        c == ',' || c == ':'

def readRecord (text : List Char) : Except ReadError (Json × List Char) := do
  let (value, rest) ← readValue text
  if isDelimited text || endsBare rest then return (value, rest) else throw .malformed

def readRecordsWithin : Nat → List Char → Except ReadError (List Json)
  | 0, _ => .ok []
  | rounds + 1, text =>
      if (skipBlank text).isEmpty then .ok []
      else do
        let (record, rest) ← readRecord text
        let records ← readRecordsWithin rounds rest
        return record :: records

/-- Every record of a text, one behind the other. -/
def readRecords (text : List Char) : Except ReadError (List Json) :=
  readRecordsWithin text.length text

end Json
end RecordFilter
