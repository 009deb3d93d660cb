import RecordFilter.Json.Basic

/-!
# Literals

A literal is a scalar written in a query.  Literals are the scalar values of records, with null
under the name of nil.
-/

namespace RecordFilter

inductive Literal where
  | nil
  | boolean (value : Bool)
  | number (value : Number)
  | string (value : String)
deriving DecidableEq

namespace Literal

def typeName : Literal → String
  | nil => "nil"
  | boolean _ => "boolean"
  | number _ => "number"
  | string _ => "string"

def toJson : Literal → Json
  | nil => .null
  | boolean b => .bool b
  | number n => .number n
  | string s => .string s

/-- Arrays and objects have no literal. -/
def ofJson? : Json → Option Literal
  | .null => some nil
  | .bool b => some (boolean b)
  | .number n => some (number n)
  | .string s => some (string s)
  | .array _ => none
  | .object _ => none

/-- The literal of a float; infinities and undefined results, given as nothing, have none. -/
def ofDouble? (x : Option Double) : Option Literal :=
  x.map fun x => number (.float x)

/-- The literal of a float, where what has none becomes nil. -/
def ofDouble (x : Option Double) : Literal :=
  (ofDouble? x).getD nil

/-- Equality as data, with numbers compared as data. -/
def same : Literal → Literal → Bool
  | nil, nil => true
  | boolean a, boolean b => a == b
  | number a, number b => a == b
  | string a, string b => a == b
  | _, _ => false

instance : BEq Literal := ⟨same⟩

end Literal

end RecordFilter
