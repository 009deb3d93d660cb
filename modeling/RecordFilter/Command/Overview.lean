/-!
# The language overview

The reference that is printed on request.
-/

namespace RecordFilter
namespace Command

def overviewLines : List String :=
  [
    "POINTER FILTER",
    "",
    "A filter is one or more clauses joined by `and` / `or`. Each clause compares a",
    "subject with an object:",
    "",
    "  /status eq \"active\"",
    "  /price between 10,100 and /tags in [\"sale\",\"new\"]",
    "  (/a eq 1 or /a eq 2) and /name like \"jo*\"",
    "",
    "Conjunctions have no precedence: clauses are evaluated strictly left to right.",
    "Use parentheses to group.",
    "",
    "OPERANDS",
    "  /a/b/0        JSON pointer into the record (RFC 6901; ~0 is ~, ~1 is /)",
    "  \"text\"        string (escapes: \\\" \\\\ \\n \\t \\r \\/ \\uXXXX)",
    "  42, -1.5      number",
    "  true, false   boolean",
    "  nil           null; as a range bound, no limit on that side",
    "",
    "OPERATORS",
    "  eq  neq               equality (1 eq 1.0)",
    "  gt  gte  lt  lte      ordering within numbers, strings or booleans",
    "  in  nin               membership: /x in [1,\"two\",false]",
    "  between  nbetween     inclusive range: /x between 0,42   /x between 10,nil",
    "  like  nlike           wildcard: * any run, _ one character, \\ escape",
    "                        (case-insensitive, whole string)",
    "",
    "MISSING FIELDS",
    "  A pointer that does not exist never satisfies eq, gt, gte, lt, lte, in,",
    "  between or like, and always satisfies neq, nin, nbetween and nlike."
  ]

def overview : String :=
  String.join (overviewLines.map (· ++ "\n"))

end Command
end RecordFilter
