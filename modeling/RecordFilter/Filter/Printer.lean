import RecordFilter.Filter.Basic
import RecordFilter.Query.Delimiter
import RecordFilter.Text.Percent
import RecordFilter.Text.Quoted

/-!
# Canonical text

Every filter has one canonical text, with single spaces between words and none inside arrays and
ranges.  The encoded style is meant for addresses: spaces, targets and the contents of strings are
percent-encoded there.
-/

namespace RecordFilter

inductive Style where
  | plain
  | encoded
deriving DecidableEq

namespace Style

def space : Style → List Char
  | plain => [' ']
  | encoded => ['%', '2', '0']

def segment (style : Style) (text : List Char) : List Char :=
  match style with
  | plain => Text.Percent.escapeWhere Query.needsEscape text
  | encoded => Text.Percent.encode text

def content (style : Style) (text : List Char) : List Char :=
  match style with
  | plain => text
  | encoded => Text.Percent.encode text

def quote (style : Style) (s : String) : List Char :=
  '"' :: style.content (Text.Quoted.body s.toList) ++ ['"']

end Style

/-!
# Operands and objects
-/

namespace Literal

def text (style : Style) : Literal → List Char
  | nil => ['n', 'i', 'l']
  | boolean true => ['t', 'r', 'u', 'e']
  | boolean false => ['f', 'a', 'l', 's', 'e']
  | number n => n.text
  | string s => style.quote s

def listText (style : Style) : List Literal → List Char
  | [] => []
  | [item] => item.text style
  | item :: rest => item.text style ++ ',' :: listText style rest

end Literal

namespace Target

def text (style : Style) (target : Target) : List Char :=
  target.segments.flatMap fun segment =>
    '/' :: style.segment (escapeSegment segment.toList)

end Target

namespace Operand

def text (style : Style) : Operand → List Char
  | target t => t.text style
  | literal value => value.text style

end Operand

namespace Object

def text (style : Style) : Object → List Char
  | operand o => o.text style
  | array items => '[' :: Literal.listText style items ++ [']']
  | range r => r.lower.toLiteral.text style ++ ',' :: r.upper.toLiteral.text style
  | pattern p => style.quote p.raw

end Object

/-!
# Clauses and filters

A clause that is still being built shows the parts that it has.
-/

namespace Clause

def text (style : Style) : Clause → List Char
  | started subject => subject.text style
  | selected subject operator =>
      subject.text style ++ style.space ++ operator.keyword.toList
  | complete subject operator object =>
      subject.text style ++ style.space ++ operator.keyword.toList ++ style.space ++
        object.text style

/-- The text of a complete clause. -/
def query (clause : Clause) (style : Style) : Except FilterError String :=
  match clause.stage with
  | .valid => .ok (String.ofList (clause.text style))
  | stage => .error (.invalidSequence .serialize stage)

end Clause

mutual

def Node.text (style : Style) : Node → List Char
  | .clause clause => clause.text style
  | .group filter => '(' :: filter.text style ++ [')']

def Filter.text (style : Style) : Filter → List Char
  | .single node => node.text style
  | .join left conjunction node =>
      left.text style ++ style.space ++ conjunction.keyword.toList ++ style.space ++
        node.text style

end

namespace Filter

def query (filter : Filter) (style : Style) : String :=
  String.ofList (filter.text style)

end Filter

end RecordFilter
