import RecordFilter.Text.Blank

/-!
# Where targets end

A target in a query runs up to white space, a bracket or a comma.  Those characters, and the
percent sign, are escaped when a target is written.
-/

namespace RecordFilter
namespace Query

def isDelimiter (c : Char) : Bool :=
  Text.isBlank c || c == '(' || c == ')' || c == '[' || c == ']' || c == ','

def needsEscape (c : Char) : Bool :=
  c == '%' || isDelimiter c

end Query
end RecordFilter
