import RecordFilter.Proofs.Query.Reading

/-!
# The grammar of queries

Which lists of token kinds mean which filter, by rules alone.  A filter is one element or more
joined by conjunctions; an element is a clause or a filter in parentheses; and the object of a
clause has the form that belongs to the family of its operator.  The rules say nothing about how
deep groups may nest, and nothing about positions.
-/

namespace RecordFilter

namespace Conjunction

def kind : Conjunction → Query.TokenKind
  | and => .and
  | or => .or

end Conjunction

namespace Query

/-!
# Single tokens
-/

inductive DerivesLiteral : TokenKind → Literal → Prop where
  | string (content : String) : DerivesLiteral (.string content) (.string content)
  | number (value : Number) : DerivesLiteral (.number value) (.number value)
  | boolean (value : Bool) : DerivesLiteral (.boolean value) (.boolean value)
  | nil : DerivesLiteral .nil .nil

inductive DerivesOperand : TokenKind → Operand → Prop where
  | target (target : Target) : DerivesOperand (.target target) (.target target)
  | literal {kind : TokenKind} {value : Literal} :
      DerivesLiteral kind value → DerivesOperand kind (.literal value)

/-- A side of a range is a literal other than a boolean, and nil leaves it open. -/
inductive DerivesBound : TokenKind → Bound → Prop where
  | string (content : String) : DerivesBound (.string content) (.string content)
  | number (value : Number) : DerivesBound (.number value) (.number value)
  | nil : DerivesBound .nil .unbounded

inductive DerivesConjunction : TokenKind → Conjunction → Prop where
  | and : DerivesConjunction .and .and
  | or : DerivesConjunction .or .or

theorem derivesConjunction_kind (conjunction : Conjunction) :
    DerivesConjunction conjunction.kind conjunction := by
  cases conjunction <;> constructor

/-!
# Clauses
-/

/-- Literals separated by commas, of which there is at least one. -/
inductive DerivesItems : Language (List Literal) where
  | last {kind : TokenKind} {value : Literal} :
      DerivesLiteral kind value → DerivesItems [kind] [value]
  | more {kind : TokenKind} {value : Literal} {list : List TokenKind} {values : List Literal} :
      DerivesLiteral kind value → DerivesItems list values →
      DerivesItems (kind :: .comma :: list) (value :: values)

inductive DerivesObject : OperatorFamily → Language Object where
  | operand {kind : TokenKind} {operand : Operand} :
      DerivesOperand kind operand → DerivesObject .comparison [kind] (.operand operand)
  | emptyArray : DerivesObject .membership [.openArray, .closeArray] (.array [])
  | array {list : List TokenKind} {values : List Literal} :
      DerivesItems list values →
      DerivesObject .membership (.openArray :: list ++ [.closeArray]) (.array values)
  | range {kind kind' : TokenKind} {lower upper : Bound} :
      DerivesBound kind lower → DerivesBound kind' upper →
      DerivesObject .range [kind, .comma, kind'] (.range (Range.ofBounds lower upper))
  | pattern (raw : String) : DerivesObject .pattern [.string raw] (.pattern ⟨raw⟩)

inductive DerivesClause : Language Clause where
  | clause {kind : TokenKind} {subject : Operand} {operator : Operator}
      {list : List TokenKind} {object : Object} :
      DerivesOperand kind subject → DerivesObject operator.family list object →
      DerivesClause (kind :: .operator operator :: list) (.complete subject operator object)

/-!
# Filters
-/

mutual

inductive DerivesNode : List TokenKind → Node → Prop where
  | clause {list : List TokenKind} {clause : Clause} :
      DerivesClause list clause → DerivesNode list (.clause clause)
  | group {list : List TokenKind} {filter : Filter} :
      DerivesFilter list filter →
      DerivesNode (.openGroup :: list ++ [.closeGroup]) (.group filter)

inductive DerivesFilter : List TokenKind → Filter → Prop where
  | single {list : List TokenKind} {node : Node} :
      DerivesNode list node → DerivesFilter list (.single node)
  | join {front back : List TokenKind} {kind : TokenKind} {left : Filter}
      {conjunction : Conjunction} {node : Node} :
      DerivesFilter front left → DerivesConjunction kind conjunction → DerivesNode back node →
      DerivesFilter (front ++ kind :: back) (.join left conjunction node)

end

/-- Elements of any kind joined by conjunctions. -/
inductive Joins (element : Language Node) : Language Filter where
  | single {list : List TokenKind} {node : Node} :
      element list node → Joins element list (.single node)
  | join {front back : List TokenKind} {kind : TokenKind} {left : Filter}
      {conjunction : Conjunction} {node : Node} :
      Joins element front left → DerivesConjunction kind conjunction → element back node →
      Joins element (front ++ kind :: back) (.join left conjunction node)

end Query
end RecordFilter
