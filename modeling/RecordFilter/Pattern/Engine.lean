import RecordFilter.Pattern.Expression

/-!
# The engine of the program

The program allows an expression ten mebibytes when it is built.  Twenty thousand dots do not fit
into them, since each dot stands for every character there is.  This engine refuses the expressions
with so many dots and no others: what it refuses is too large for certain, but it does not measure
what it builds.  The theory of patterns and filters holds for every engine.
-/

namespace RecordFilter
namespace Pattern

/-- The dots of an expression that are not escaped. -/
def dots : List Char → Nat
  | [] => 0
  | c :: rest =>
      if c = '\\' then
        match rest with
        | [] => 0
        | _ :: rest' => dots rest'
      else if c = '.' then dots rest + 1
      else dots rest

def dotLimit : Nat := 20000

instance programEngine : Engine where
  builds expression := decide (dots expression < dotLimit)

end Pattern
end RecordFilter
