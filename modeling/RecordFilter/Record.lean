import RecordFilter.Json.Basic
import RecordFilter.Number.Numeral
import RecordFilter.Target

/-!
# Looking into records

A pointer is followed through a record segment by segment: a key leads into an object, an index
into an array.  A place that does not exist is absent, which is not the same as null.
-/

namespace RecordFilter

namespace Json

/-!
# Steps
-/

/-- An index has digits only and no leading zero. -/
def index? (segment : List Char) : Option Nat :=
  match segment with
  | [] => none
  | ['0'] => some 0
  | c :: rest =>
      if c ≠ '0' ∧ (c :: rest).all Char.isDigit then
        some (Numeral.digitsValue (c :: rest))
      else none

def child? (value : Json) (segment : List Char) : Option Json :=
  match value with
  | object members => members.lookup (String.ofList segment)
  | array items => (index? segment).bind (items[·]?)
  | _ => none

/-!
# Pointers

The segments of a pointer text are unescaped on the way.
-/

/-- Every `~` before the given mark is replaced, together with the mark. -/
def replaceEscape (mark plain : Char) : List Char → List Char
  | [] => []
  | [c] => [c]
  | c :: d :: rest =>
      if c = '~' ∧ d = mark then plain :: replaceEscape mark plain rest
      else c :: replaceEscape mark plain (d :: rest)

def unescape (segment : List Char) : List Char :=
  replaceEscape '0' '~' (replaceEscape '1' '/' segment)

def atPointer? (value : Json) (pointer : List Char) : Option Json :=
  match pointer with
  | [] => some value
  | c :: rest =>
      if c = '/' then
        (Target.pieces rest).foldlM (fun place segment => place.child? (unescape segment)) value
      else none

end Json

/-!
# Records

Values are records, and so are the members of an object on their own.
-/

class Record (ρ : Type) where
  resolve? : ρ → Target → Option Json

instance : Record Json where
  resolve? value target := value.atPointer? target.pointerText

namespace Json.Members

/-- Looks up the first segment by its key and follows the rest of the pointer from there. -/
def resolve? (members : Members) (target : Target) : Option Json :=
  match target.segments with
  | [] => some (.object members)
  | first :: _ =>
      (members.lookup first).bind fun value =>
        value.atPointer? ((target.pointerText.drop 1).dropWhile (· ≠ '/'))

end Json.Members

instance : Record Json.Members where
  resolve? := Json.Members.resolve?

end RecordFilter
