import RecordFilter.Filter.Printer
import RecordFilter.Proofs.Target

/-!
# Stages of building

However a clause is built, it passes from its subject to an operator and from there to an object,
one stage at a time.  Calls that come at another stage, or that bring an object of the wrong
family, are refused and change nothing; so a clause consists of its subject and of what its
successful calls have brought, of which there are at most one selector and, behind it, one binder.
-/

namespace RecordFilter

/-- The stage that comes right after another. -/
inductive Stage.Precedes : Stage → Stage → Prop where
  | operator : Precedes .subjectSet .operatorSet
  | object : Precedes .operatorSet .valid

namespace Clause

/-!
# Calls

A call is a selector or one of the binders.
-/

inductive Call where
  | select (operator : Operator)
  | bind (object : Object)
  | literal (value : Literal)
  | target (pointer : String)
  | array (items : List Literal)
  | range (lower upper : Bound)
  | pattern (raw : String)
deriving DecidableEq

namespace Call

def perform (clause : Clause) : Call → Except FilterError Clause
  | select operator => clause.select operator
  | bind object => clause.bind object
  | literal value => clause.bindLiteral value
  | target pointer => clause.bindTarget pointer
  | array items => clause.bindArray items
  | range lower upper => clause.bindRange lower upper
  | pattern raw => clause.bindPattern raw

/-- The stage at which a call is due. -/
def due : Call → Stage
  | select _ => .subjectSet
  | _ => .operatorSet

def request : Call → Request
  | select _ => .selectOperator
  | _ => .bindObject

/-- The object that a binder brings, which a text does only if it is the pointer of a target. -/
inductive Offers : Call → Object → Prop where
  | bind (object : Object) : Offers (.bind object) object
  | literal (value : Literal) : Offers (.literal value) (.operand (.literal value))
  | target {target : Target} :
      target.isRoot = false → Offers (.target target.pointer) (.operand (.target target))
  | array (items : List Literal) : Offers (.array items) (.array items)
  | range (lower upper : Bound) :
      Offers (.range lower upper) (.range (Range.ofBounds lower upper))
  | pattern (raw : String) : Offers (.pattern raw) (.pattern ⟨raw⟩)

/-- The calls that a clause takes. -/
inductive Fits (clause : Clause) : Call → Prop where
  | select (operator : Operator) : clause.stage = .subjectSet → Fits clause (.select operator)
  | bind {call : Call} {operator : Operator} {object : Object} :
      clause.stage = .operatorSet → clause.operator? = some operator → call.Offers object →
      object.family = operator.family → Fits clause call

end Call

/-!
# Runs

A failed call leaves the clause as it was.
-/

def run (clause : Clause) : List Call → Clause
  | [] => clause
  | call :: calls =>
      match call.perform clause with
      | .ok next => next.run calls
      | .error _ => clause.run calls

/-- The calls of a run that do not fail. -/
def successes (clause : Clause) : List Call → List Call
  | [] => []
  | call :: calls =>
      match call.perform clause with
      | .ok next => call :: next.successes calls
      | .error _ => clause.successes calls

/-- What a clause is after its successful calls. -/
inductive Reached (subject : Operand) : List Call → Clause → Prop where
  | started : Reached subject [] (.started subject)
  | selected (operator : Operator) :
      Reached subject [.select operator] (.selected subject operator)
  | complete {operator : Operator} {call : Call} {object : Object} :
      call.Offers object → object.family = operator.family →
      Reached subject [.select operator, call] (.complete subject operator object)

/-- The rules of the stages, as they apply to a clause. -/
structure StageRules (clause : Clause) : Prop where
  accepted : ∀ call : Call, (∃ next, call.perform clause = .ok next) ↔ call.Fits clause
  wrongStage : ∀ call : Call, clause.stage ≠ call.due →
    call.perform clause = .error (.invalidSequence call.request clause.stage)
  wrongFamily : ∀ (call : Call) operator object, clause.stage = .operatorSet →
    clause.operator? = some operator → call.Offers object → object.family ≠ operator.family →
    call.perform clause =
      .error (.typeMismatch operator operator.family.objectShape object.shapeName)
  noTarget : ∀ pointer, clause.stage = .operatorSet →
    (∀ object, ¬(Call.target pointer).Offers object) →
    ∃ cause, (Call.target pointer).perform clause = .error (.invalidTarget cause)
  nextStage : ∀ (call : Call) next, call.perform clause = .ok next →
    clause.stage.Precedes next.stage
  written : ∀ style, (∃ text, clause.query style = .ok text) ↔ clause.stage = .valid
  unwritten : ∀ style, clause.stage ≠ .valid →
    clause.query style = .error (.invalidSequence .serialize clause.stage)

/-!
# Pointers of binders
-/

theorem targetOf_pointer {target : Target} (h : target.isRoot = false) :
    targetOf target.pointer = .ok target := by
  have hempty : target.pointer.isEmpty = false := by
    rcases target with ⟨segments⟩
    cases segments with
    | nil =>
        cases h
    | cons first others =>
        rw [Target.pointer, String.isEmpty_eq_false_iff, Ne, String.ofList_eq_empty_iff]
        exact List.cons_ne_nil _ _
  rw [targetOf, hempty, Target.pointer, Target.parse_pointerText h]
  rfl

theorem targetOf_cases (pointer : String) :
    (∃ target : Target, target.isRoot = false ∧ pointer = target.pointer) ∨
      ∃ cause, targetOf pointer = .error (.invalidTarget cause) := by
  unfold targetOf
  split
  · exact Or.inr ⟨_, rfl⟩
  · next hempty =>
      cases hparse : Target.parse pointer with
      | error cause =>
          exact Or.inr ⟨cause, rfl⟩
      | ok target =>
          have htext := Target.pointerText_of_parse hparse
          have hpointer : pointer = target.pointer := by
            rw [Target.pointer, htext, String.ofList_toList]
          refine Or.inl ⟨target, ?_, hpointer⟩
          rcases target with ⟨segments⟩
          cases segments with
          | nil =>
              rw [hpointer] at hempty
              exact absurd rfl hempty
          | cons first others =>
              rfl

/-!
# Steps
-/

theorem select_eq_ok_iff {clause next : Clause} {operator : Operator} :
    clause.select operator = .ok next ↔
      ∃ subject, clause = started subject ∧ next = selected subject operator := by
  constructor
  · intro h
    cases clause with
    | started subject =>
        cases h
        exact ⟨subject, rfl, rfl⟩
    | selected subject operator' | complete subject operator' object =>
        cases h
  · rintro ⟨subject, rfl, rfl⟩
    rfl

theorem bind_eq_ok_iff {clause next : Clause} {object : Object} :
    clause.bind object = .ok next ↔
      ∃ subject operator, clause = selected subject operator ∧
        object.family = operator.family ∧ next = complete subject operator object := by
  constructor
  · intro h
    cases clause with
    | started subject | complete subject operator object' =>
        cases h
    | selected subject operator =>
        by_cases hfamily : object.family = operator.family
        · have hbind : (selected subject operator).bind object =
              .ok (complete subject operator object) := if_pos hfamily
          rw [hbind] at h
          cases h
          exact ⟨subject, operator, rfl, hfamily, rfl⟩
        · have hbind : (selected subject operator).bind object =
              .error (.typeMismatch operator operator.family.objectShape object.shapeName) :=
            if_neg hfamily
          rw [hbind] at h
          cases h
  · rintro ⟨subject, operator, rfl, hfamily, rfl⟩
    exact if_pos hfamily

namespace Call

variable {clause next : Clause} {call : Call} {operator : Operator} {object : Object}

/-- Every binder that brings an object binds it. -/
theorem perform_of_offers (h : call.Offers object) : call.perform clause = clause.bind object := by
  cases h with
  | bind | literal | array | range | pattern =>
      rfl
  | target hroot =>
      show clause.bindTarget _ = _
      cases clause with
      | started subject | complete subject operator object =>
          rfl
      | selected subject operator =>
          rw [bindTarget, targetOf_pointer hroot]
          rfl

/-- A call is a selector, or brings an object, or has a text that is no pointer. -/
theorem select_or_offers (call : Call) :
    (∃ operator, call = .select operator) ∨ (∃ object, call.Offers object) ∨
      ∃ pointer cause, call = .target pointer ∧
        targetOf pointer = .error (.invalidTarget cause) := by
  cases call with
  | select operator =>
      exact Or.inl ⟨operator, rfl⟩
  | bind object =>
      exact Or.inr (Or.inl ⟨_, .bind object⟩)
  | literal value =>
      exact Or.inr (Or.inl ⟨_, .literal value⟩)
  | array items =>
      exact Or.inr (Or.inl ⟨_, .array items⟩)
  | range lower upper =>
      exact Or.inr (Or.inl ⟨_, .range lower upper⟩)
  | pattern raw =>
      exact Or.inr (Or.inl ⟨_, .pattern raw⟩)
  | target pointer =>
      rcases targetOf_cases pointer with ⟨target, hroot, rfl⟩ | ⟨cause, hcause⟩
      · exact Or.inr (Or.inl ⟨_, .target hroot⟩)
      · exact Or.inr (Or.inr ⟨pointer, cause, rfl, hcause⟩)

/-- All that a successful call can have done. -/
theorem perform_ok (h : call.perform clause = .ok next) :
    (∃ subject operator, call = .select operator ∧ clause = started subject ∧
      next = selected subject operator) ∨
    ∃ subject operator object, call.Offers object ∧ clause = selected subject operator ∧
      object.family = operator.family ∧ next = complete subject operator object := by
  rcases call.select_or_offers with ⟨operator, rfl⟩ | ⟨object, hoffers⟩ |
    ⟨pointer, cause, rfl, hcause⟩
  · rcases select_eq_ok_iff.mp h with ⟨subject, hclause, hnext⟩
    exact Or.inl ⟨subject, operator, rfl, hclause, hnext⟩
  · rw [perform_of_offers hoffers] at h
    rcases bind_eq_ok_iff.mp h with ⟨subject, operator, hclause, hfamily, hnext⟩
    exact Or.inr ⟨subject, operator, object, hoffers, hclause, hfamily, hnext⟩
  · cases clause with
    | started subject | complete subject operator object =>
        cases h
    | selected subject operator =>
        have hperform : (Call.target pointer).perform (selected subject operator) =
            .error (.invalidTarget cause) := by
          rw [perform, bindTarget, hcause]
          rfl
        rw [hperform] at h
        cases h

theorem perform_wrongStage (h : clause.stage ≠ call.due) :
    call.perform clause = .error (.invalidSequence call.request clause.stage) := by
  cases clause with
  | started subject =>
      cases call with
      | select operator =>
          exact absurd rfl h
      | bind | literal | target | array | range | pattern =>
          rfl
  | selected subject operator =>
      cases call with
      | select operator' =>
          rfl
      | bind | literal | target | array | range | pattern =>
          exact absurd rfl h
  | complete subject operator object =>
      cases call <;> rfl

theorem perform_wrongFamily (hstage : clause.stage = .operatorSet)
    (hoperator : clause.operator? = some operator) (hoffers : call.Offers object)
    (hfamily : object.family ≠ operator.family) :
    call.perform clause =
      .error (.typeMismatch operator operator.family.objectShape object.shapeName) := by
  rw [perform_of_offers hoffers]
  cases clause with
  | started subject | complete subject operator' object' =>
      cases hstage
  | selected subject operator' =>
      cases hoperator
      exact if_neg hfamily

theorem perform_noTarget {pointer : String} (hstage : clause.stage = .operatorSet)
    (h : ∀ object, ¬(Call.target pointer).Offers object) :
    ∃ cause, (Call.target pointer).perform clause = .error (.invalidTarget cause) := by
  rcases targetOf_cases pointer with ⟨target, hroot, rfl⟩ | ⟨cause, hcause⟩
  · exact absurd (.target hroot) (h _)
  · cases clause with
    | started subject | complete subject operator object =>
        cases hstage
    | selected subject operator =>
        refine ⟨cause, ?_⟩
        rw [perform, bindTarget, hcause]
        rfl

theorem perform_ok_iff_fits : (∃ next, call.perform clause = .ok next) ↔ call.Fits clause := by
  constructor
  · rintro ⟨next, h⟩
    rcases perform_ok h with ⟨subject, operator, rfl, rfl, rfl⟩ |
      ⟨subject, operator, object, hoffers, rfl, hfamily, rfl⟩
    · exact .select operator rfl
    · exact .bind rfl rfl hoffers hfamily
  · intro h
    cases h with
    | select operator hstage =>
        cases clause with
        | started subject =>
            exact ⟨_, rfl⟩
        | selected subject operator' | complete subject operator' object =>
            cases hstage
    | bind hstage hoperator hoffers hfamily =>
        cases clause with
        | started subject | complete subject operator' object =>
            cases hstage
        | selected subject operator' =>
            cases hoperator
            rw [perform_of_offers hoffers]
            exact ⟨_, if_pos hfamily⟩

theorem precedes_of_perform (h : call.perform clause = .ok next) :
    clause.stage.Precedes next.stage := by
  rcases perform_ok h with ⟨subject, operator, -, rfl, rfl⟩ |
    ⟨subject, operator, object, -, rfl, -, rfl⟩
  · exact .operator
  · exact .object

end Call

theorem query_ok_iff {clause : Clause} {style : Style} :
    (∃ text, clause.query style = .ok text) ↔ clause.stage = .valid := by
  constructor
  · rintro ⟨text, h⟩
    cases clause with
    | started subject | selected subject operator =>
        cases h
    | complete subject operator object =>
        rfl
  · intro h
    cases clause with
    | started subject | selected subject operator =>
        cases h
    | complete subject operator object =>
        exact ⟨_, rfl⟩

theorem query_unwritten {clause : Clause} {style : Style} (h : clause.stage ≠ .valid) :
    clause.query style = .error (.invalidSequence .serialize clause.stage) := by
  cases clause with
  | started subject | selected subject operator =>
      rfl
  | complete subject operator object =>
      exact absurd rfl h

theorem stageRules (clause : Clause) : clause.StageRules where
  accepted _ := Call.perform_ok_iff_fits
  wrongStage _ := Call.perform_wrongStage
  wrongFamily _ _ _ := Call.perform_wrongFamily
  noTarget _ := Call.perform_noTarget
  nextStage _ _ := Call.precedes_of_perform
  written _ := query_ok_iff
  unwritten _ := query_unwritten

/-!
# Whole runs
-/

variable {subject : Operand}

theorem Reached.perform {done : List Call} {clause next : Clause} {call : Call}
    (h : Reached subject done clause) (hok : call.perform clause = .ok next) :
    Reached subject (done ++ [call]) next := by
  rcases Call.perform_ok hok with ⟨subject', operator, rfl, rfl, rfl⟩ |
    ⟨subject', operator, object, hoffers, rfl, hfamily, rfl⟩
  · cases h
    exact .selected operator
  · cases h
    exact .complete hoffers hfamily

theorem Reached.run {done : List Call} {clause : Clause} (h : Reached subject done clause)
    (calls : List Call) : Reached subject (done ++ clause.successes calls) (clause.run calls) := by
  induction calls generalizing done clause with
  | nil =>
      rw [successes, List.append_nil]
      exact h
  | cons call calls ih =>
      unfold Clause.run successes
      cases hperform : call.perform clause with
      | error e =>
          exact ih h
      | ok next =>
          have hnext := ih (h.perform hperform)
          rw [List.append_assoc, List.singleton_append] at hnext
          exact hnext

/--
After any run, a clause is made of its subject and of what the successful calls have brought, a
selector and a binder at most, and the rules of the stages tell what comes of every further call.
-/
theorem run_stages (subject : Operand) (calls : List Call) :
    Reached subject ((ofOperand subject).successes calls) ((ofOperand subject).run calls) ∧
      ((ofOperand subject).run calls).StageRules :=
  ⟨Reached.started.run calls, stageRules _⟩

example : (ofOperand (.literal .nil)).run
    [.pattern "a*", .select .isIn, .select .eq, .target "~", .literal .nil, .array [.nil],
      .array []] = .complete (.literal .nil) .isIn (.array [.nil]) := by
  decide

end Clause
end RecordFilter
