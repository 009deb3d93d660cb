import RecordFilter.Json.Basic

/-!
# Comparing values

Numbers are equal when they compare as equal, whatever their kind, and everything else is equal by
structure.  Only values of one scalar type are ordered: `false` comes before `true`, and strings
follow their code points.
-/

namespace RecordFilter
namespace Json

mutual

def equal : Json → Json → Bool
  | null, null => true
  | bool a, bool b => a == b
  | number a, number b => a.compare b == .eq
  | string a, string b => a == b
  | array as, array bs => equalItems as bs
  | object as, object bs => as.length == bs.length && equalMembers as bs
  | _, _ => false

def equalItems : List Json → List Json → Bool
  | [], [] => true
  | a :: as, b :: bs => equal a b && equalItems as bs
  | _, _ => false

/-- Whether each member of the first object has an equal one of its key in the second. -/
def equalMembers : List (String × Json) → List (String × Json) → Bool
  | [], _ => true
  | (key, a) :: as, bs =>
      (match bs.lookup key with
        | some b => equal a b
        | none => false) && equalMembers as bs

end

def order? : Json → Json → Option Ordering
  | number a, number b => some (a.compare b)
  | string a, string b => some (compare a b)
  | bool a, bool b => some (compare a b)
  | null, null => some .eq
  | _, _ => none

end Json
end RecordFilter
