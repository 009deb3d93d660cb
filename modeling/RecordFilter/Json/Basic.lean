import RecordFilter.Number.Basic

/-!
# Records

A record is a JSON value.  The members of an object are kept in the order of their keys, each key
once, so that two objects with the same members are the same value.
-/

namespace RecordFilter

inductive Json where
  | null
  | bool (value : Bool)
  | number (value : Number)
  | string (value : String)
  | array (items : List Json)
  | object (members : List (String × Json))

namespace Json

abbrev Members := List (String × Json)

def typeName : Json → String
  | null => "nil"
  | bool _ => "boolean"
  | number _ => "number"
  | string _ => "string"
  | array _ => "array"
  | object _ => "object"

namespace Members

/-- Puts a member in its place; a member of the same key gives way to it. -/
def insert (key : String) (value : Json) : Members → Members
  | [] => [(key, value)]
  | (k, v) :: rest =>
      if key < k then (key, value) :: (k, v) :: rest
      else if key = k then (key, value) :: rest
      else (k, v) :: insert key value rest

/-- The members of an object as written, where the last member of a key counts. -/
def ofList (written : List (String × Json)) : Members :=
  written.foldl (fun members member => members.insert member.1 member.2) []

end Members

end Json

end RecordFilter
