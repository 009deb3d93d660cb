import RecordFilter.Filter.Parser

/-!
# What readers of tokens accept

A reader is described by a language, which says what value a list of token kinds has, and by what
the next token may be before and behind such a list.  The description has three parts.  The reader
accepts every list of the language; what it returns, it has read as a list of the language; and
when it refuses, the tokens that it took begin some list of the language and with the next one no
list can be read.
-/

namespace RecordFilter
namespace Query

/-!
# Kinds of tokens

Positions play no part in what a list of tokens means.
-/

def kinds (tokens : List Token) : List TokenKind :=
  tokens.map Token.kind

@[simp] theorem kinds_nil : kinds [] = [] := rfl

@[simp] theorem kinds_cons (token : Token) (tokens : List Token) :
    kinds (token :: tokens) = token.kind :: kinds tokens := rfl

@[simp] theorem kinds_append (front back : List Token) :
    kinds (front ++ back) = kinds front ++ kinds back :=
  List.map_append

theorem kinds_eq_append {tokens : List Token} {front back : List TokenKind}
    (h : kinds tokens = front ++ back) :
    ∃ left right, tokens = left ++ right ∧ kinds left = front ∧ kinds right = back :=
  List.map_eq_append_iff.mp h

theorem kinds_eq_cons {tokens : List Token} {kind : TokenKind} {back : List TokenKind}
    (h : kinds tokens = kind :: back) :
    ∃ token right, tokens = token :: right ∧ token.kind = kind ∧ kinds right = back :=
  List.map_eq_cons_iff.mp h

theorem kinds_eq_nil {tokens : List Token} (h : kinds tokens = []) : tokens = [] :=
  List.map_eq_nil_iff.mp h

/-- The kind of the first token, which is all that a reader looks at before it decides. -/
def nextKind (tokens : List Token) : Option TokenKind :=
  tokens.head?.map Token.kind

@[simp] theorem nextKind_nil : nextKind [] = none := rfl

@[simp] theorem nextKind_cons (token : Token) (tokens : List Token) :
    nextKind (token :: tokens) = some token.kind := rfl

theorem nextKind_append_of_head {front back : List Token} {token : Token}
    (h : token ∈ back.head?) (rest : List Token) :
    nextKind (front ++ token :: rest) = nextKind (front ++ back) := by
  cases front with
  | nil =>
      cases back with
      | nil =>
          cases h
      | cons head tail =>
          cases h
          rfl
  | cons head tail =>
      rfl

theorem nextKind_of_head {tokens : List Token} {kind : TokenKind}
    (h : (kinds tokens).head? = some kind) (rest : List Token) :
    nextKind (tokens ++ rest) = some kind := by
  cases tokens with
  | nil =>
      cases h
  | cons token tail =>
      exact h

@[simp] theorem TokenStream.kind?_mk (tokens : List Token) (stop : Nat) :
    (TokenStream.mk tokens stop).kind? = nextKind tokens := rfl

/-!
# Languages and faults
-/

abbrev Language (α : Type) : Type :=
  List TokenKind → α → Prop

/-- Some list of the language begins this way. -/
def Viable {α : Type} (language : Language α) (start : List TokenKind) : Prop :=
  ∃ more value, language (start ++ more) value

theorem viable_of_mem {α : Type} {language : Language α} {list : List TokenKind} {value : α}
    (h : language list value) : Viable language list := by
  refine ⟨[], value, ?_⟩
  rw [List.append_nil]
  exact h

namespace Fault

/-- The faults of a token that cannot stand where it stands. -/
def OfToken : Fault → Prop
  | unexpectedToken _ _ => True
  | unknownOperator _ => True
  | nestingTooDeep _ => True
  | _ => False

/-- The faults of a list that ends too early. -/
def OfEnd : Fault → Prop
  | unexpectedEnd _ => True
  | unterminatedGroup => True
  | unterminatedArray => True
  | _ => False

end Fault

end Query

/-- The error names the token that comes next, or the end when none does. -/
def QueryError.Blames (e : QueryError) : List Query.Token → Prop
  | [] => e.fault.OfEnd
  | token :: _ => e.fault.OfToken ∧ e.position = token.position

namespace Query

theorem unexpected_blames (expected : Expectation) (tokens : List Token) (stop : Nat) :
    ((TokenStream.mk tokens stop).unexpected expected).Blames tokens := by
  cases tokens with
  | nil =>
      trivial
  | cons token rest =>
      exact ⟨trivial, rfl⟩

/-!
# Descriptions of readers
-/

/-- What the next token may be; nothing stands for the end. -/
abbrev Lookahead : Type :=
  Option TokenKind → Prop

def anyNext : Lookahead :=
  fun _ => True

def Fails {α : Type} (reader : Parser α) (tokens : List Token) (stop : Nat) : Prop :=
  ∃ e after, reader ⟨tokens, stop⟩ = .error e after

/-- A refusal behind some tokens: they begin a list of the language, and with the next none does. -/
structure Refusal {α : Type} (reader : Parser α) (language : Language α)
    (taken : List Token) (e : QueryError) (left : List Token) : Prop where
  blames : e.Blames left
  viable : Viable language (kinds taken)
  hopeless : ∀ token ∈ left.head?, ∀ rest stop, Fails reader (taken ++ token :: rest) stop

structure Reads {α : Type} (before : Lookahead) (reader : Parser α) (language : Language α)
    (behind : Lookahead) : Prop where
  accepts : ∀ {tokens value}, language (kinds tokens) value →
    ∀ {rest}, behind (nextKind rest) → ∀ stop,
      reader ⟨tokens ++ rest, stop⟩ = .ok value ⟨rest, stop⟩
  returns : ∀ {tokens stop value after}, before (nextKind tokens) →
    reader ⟨tokens, stop⟩ = .ok value after →
    ∃ taken left, tokens = taken ++ left ∧ after = ⟨left, stop⟩ ∧
      language (kinds taken) value ∧ behind (nextKind left)
  refuses : ∀ {tokens stop e after}, before (nextKind tokens) →
    reader ⟨tokens, stop⟩ = .error e after →
    ∃ taken left, tokens = taken ++ left ∧ after = ⟨left, stop⟩ ∧
      Refusal reader language taken e left

/-!
# Running readers in sequence
-/

section Sequence

variable {α β : Type} {first : Parser α} {second : α → Parser β}

theorem run_get (stream : TokenStream) : (get : Parser TokenStream) stream = .ok stream stream :=
  rfl

theorem run_bind_ok {stream after : TokenStream} {a : α} (h : first stream = .ok a after) :
    (first >>= second) stream = second a after := by
  show EStateM.bind first second stream = second a after
  simp [EStateM.bind, h]

theorem run_bind_error {stream after : TokenStream} {e : QueryError}
    (h : first stream = .error e after) :
    (first >>= second) stream = .error e after := by
  show EStateM.bind first second stream = .error e after
  simp [EStateM.bind, h]

theorem of_run_bind_ok {stream after : TokenStream} {b : β}
    (h : (first >>= second) stream = .ok b after) :
    ∃ a between, first stream = .ok a between ∧ second a between = .ok b after := by
  cases hfirst : first stream with
  | ok a between =>
      rw [run_bind_ok hfirst] at h
      exact ⟨a, between, rfl, h⟩
  | error e between =>
      rw [run_bind_error hfirst] at h
      cases h

theorem of_run_bind_error {stream after : TokenStream} {e : QueryError}
    (h : (first >>= second) stream = .error e after) :
    first stream = .error e after ∨
      ∃ a between, first stream = .ok a between ∧ second a between = .error e after := by
  cases hfirst : first stream with
  | ok a between =>
      rw [run_bind_ok hfirst] at h
      exact Or.inr ⟨a, between, rfl, h⟩
  | error e' between =>
      rw [run_bind_error hfirst] at h
      injection h with he hafter
      rw [he, hafter]
      exact Or.inl rfl

theorem run_bind_congr {second' : α → Parser β} {stream : TokenStream}
    (h : ∀ a after, first stream = .ok a after → second a after = second' a after) :
    (first >>= second) stream = (first >>= second') stream := by
  cases hfirst : first stream with
  | ok a after =>
      rw [run_bind_ok hfirst, run_bind_ok hfirst]
      exact h a after hfirst
  | error e after =>
      rw [run_bind_error hfirst, run_bind_error hfirst]

theorem Fails.bind {tokens : List Token} {stop : Nat} (h : Fails first tokens stop) :
    Fails (first >>= second) tokens stop := by
  rcases h with ⟨e, after, h⟩
  exact ⟨e, after, run_bind_error h⟩

/-- Where the first reader is refused, the sequence is. -/
theorem Refusal.bind {language : Language α} {language' : Language β} {taken left : List Token}
    {e : QueryError} (h : Refusal first language taken e left)
    (hviable : ∀ list a, language list a → Viable language' list) :
    Refusal (first >>= second) language' taken e left where
  blames := h.blames
  viable := by
    rcases h.viable with ⟨more, a, hlanguage⟩
    rcases hviable _ a hlanguage with ⟨more', b, hlanguage'⟩
    rw [List.append_assoc] at hlanguage'
    exact ⟨more ++ more', b, hlanguage'⟩
  hopeless := fun token htoken rest stop => (h.hopeless token htoken rest stop).bind

/-- A reader that goes on like another one behind some tokens is refused where that one is. -/
theorem Refusal.after {reader : Parser α} {reader' : Parser β} {language : Language α}
    {language' : Language β} (front : List Token) {taken left : List Token} {e : QueryError}
    (h : Refusal reader' language' taken e left)
    (hlanguage : ∀ list b, language' list b → ∃ a, language (kinds front ++ list) a)
    (hrun : ∀ token ∈ left.head?, ∀ rest stop e' after,
      reader' ⟨taken ++ token :: rest, stop⟩ = .error e' after →
        reader ⟨front ++ (taken ++ token :: rest), stop⟩ = .error e' after) :
    Refusal reader language (front ++ taken) e left where
  blames := h.blames
  viable := by
    rcases h.viable with ⟨more, b, hb⟩
    rcases hlanguage _ b hb with ⟨a, ha⟩
    refine ⟨more, a, ?_⟩
    rw [kinds_append, List.append_assoc]
    exact ha
  hopeless := by
    intro token htoken rest stop
    rcases h.hopeless token htoken rest stop with ⟨e', after, herror⟩
    refine ⟨e', after, ?_⟩
    rw [List.append_assoc]
    exact hrun token htoken rest stop e' after herror

end Sequence

/-!
# Single tokens
-/

section Take

variable {α : Type} {expected : Expectation} {read : TokenKind → Option α}

theorem take_ok {token : Token} {rest : List Token} {stop : Nat} {value : α}
    (h : read token.kind = some value) :
    Parser.take expected read ⟨token :: rest, stop⟩ = .ok value ⟨rest, stop⟩ := by
  have hbind : (TokenStream.mk (token :: rest) stop).kind?.bind read = some value := h
  rw [Parser.take, run_bind_ok (run_get _), hbind]
  rfl

theorem take_error (tokens : List Token) {stop : Nat}
    (h : (nextKind tokens).bind read = none) :
    Parser.take expected read ⟨tokens, stop⟩ =
      .error ((TokenStream.mk tokens stop).unexpected expected) ⟨tokens, stop⟩ := by
  have hbind : (TokenStream.mk tokens stop).kind?.bind read = none := h
  rw [Parser.take, run_bind_ok (run_get _), hbind]
  rfl

end Take

/-!
# Combining descriptions
-/

/-- A list of the first language and then one of the second, which may depend on the value. -/
def Language.andThen {α β : Type} (first : Language α) (second : α → Language β) : Language β :=
  fun list b => ∃ front back a, list = front ++ back ∧ first front a ∧ second a back b

/-- The lists of one token that has a value. -/
def Language.one {α : Type} (token : TokenKind → α → Prop) : Language α :=
  fun list value => ∃ kind, list = [kind] ∧ token kind value

namespace Reads

variable {α β : Type} {before between behind : Lookahead}

theorem congr {reader : Parser α} {language language' : Language α}
    (h : Reads before reader language behind)
    (hiff : ∀ list value, language list value ↔ language' list value) :
    Reads before reader language' behind := by
  have heq : language = language' :=
    funext fun list => funext fun value => propext (hiff list value)
  rw [← heq]
  exact h

/-- A reader of one token, which takes nothing when that token is not the one. -/
theorem ofNext {reader : Parser α} {token : TokenKind → α → Prop}
    (hok : ∀ {kind value}, token kind value → ∀ position rest stop,
      reader ⟨⟨kind, position⟩ :: rest, stop⟩ = .ok value ⟨rest, stop⟩)
    (herror : ∀ {tokens} stop, (∀ kind ∈ nextKind tokens, ∀ value, ¬token kind value) →
      ∃ e, reader ⟨tokens, stop⟩ = .error e ⟨tokens, stop⟩ ∧ e.Blames tokens)
    (hsome : ∃ kind value, token kind value) :
    Reads anyNext reader (Language.one token) anyNext := by
  have hcases : ∀ tokens stop, (∃ kind position rest value, tokens = ⟨kind, position⟩ :: rest ∧
      token kind value ∧ reader ⟨tokens, stop⟩ = .ok value ⟨rest, stop⟩) ∨
      ((∀ kind ∈ nextKind tokens, ∀ value, ¬token kind value) ∧
        ∃ e, reader ⟨tokens, stop⟩ = .error e ⟨tokens, stop⟩ ∧ e.Blames tokens) := by
    intro tokens stop
    by_cases h : ∃ kind ∈ nextKind tokens, ∃ value, token kind value
    · rcases h with ⟨kind, hkind, value, hvalue⟩
      cases tokens with
      | nil =>
          cases hkind
      | cons head rest =>
          cases hkind
          exact Or.inl ⟨head.kind, head.position, rest, value, rfl, hvalue, hok hvalue _ _ _⟩
    · have hnone : ∀ kind ∈ nextKind tokens, ∀ value, ¬token kind value :=
        fun kind hkind value hvalue => h ⟨kind, hkind, value, hvalue⟩
      exact Or.inr ⟨hnone, herror stop hnone⟩
  constructor
  · intro tokens value hlanguage rest _ stop
    rcases hlanguage with ⟨kind, hkinds, hvalue⟩
    rcases kinds_eq_cons hkinds with ⟨⟨kind, position⟩, right, rfl, rfl, hright⟩
    rw [kinds_eq_nil hright]
    exact hok hvalue position rest stop
  · intro tokens stop value after _ h
    rcases hcases tokens stop with ⟨kind, position, rest, value, rfl, hvalue, hrun⟩ |
      ⟨_, e, hrun, _⟩
    · rw [hrun] at h
      cases h
      exact ⟨[⟨kind, position⟩], rest, rfl, rfl, ⟨kind, rfl, hvalue⟩, trivial⟩
    · rw [hrun] at h
      cases h
  · intro tokens stop e after _ h
    rcases hcases tokens stop with ⟨kind, position, rest, value, rfl, _, hrun⟩ |
      ⟨hnone, e', hrun, hblames⟩
    · rw [hrun] at h
      cases h
    · rw [hrun] at h
      cases h
      refine ⟨[], tokens, rfl, rfl, hblames, ?_, ?_⟩
      · rcases hsome with ⟨kind, value, hvalue⟩
        exact ⟨[kind], value, kind, rfl, hvalue⟩
      · intro next hnext rest stop'
        have hhead : nextKind ([] ++ next :: rest) = nextKind ([] ++ tokens) :=
          nextKind_append_of_head hnext rest
        rw [List.nil_append, List.nil_append] at hhead
        rw [← hhead] at hnone
        rcases herror stop' hnone with ⟨e', hrun', _⟩
        exact ⟨e', _, hrun'⟩

theorem take (expected : Expectation) (read : TokenKind → Option α)
    (hsome : ∃ kind value, read kind = some value) :
    Reads anyNext (Parser.take expected read)
      (Language.one fun kind value => read kind = some value) anyNext := by
  refine ofNext (fun hread _ _ _ => take_ok hread) ?_ hsome
  intro tokens stop hnone
  have hbind : (nextKind tokens).bind read = none := by
    cases hread : (nextKind tokens).bind read with
    | none =>
        rfl
    | some value =>
        rcases Option.bind_eq_some_iff.mp hread with ⟨kind, hkind, hvalue⟩
        exact absurd hvalue (hnone kind hkind value)
  exact ⟨_, take_error tokens hbind, unexpected_blames expected tokens stop⟩

theorem skip (kind : TokenKind) :
    Reads (fun next => next = some kind) Parser.skip (fun list _ => list = [kind]) anyNext where
  accepts := by
    intro tokens _ hlanguage rest _ stop
    rcases kinds_eq_cons hlanguage with ⟨token, right, rfl, _, hright⟩
    rw [kinds_eq_nil hright]
    rfl
  returns := by
    intro tokens stop _ after hnext h
    cases h
    cases tokens with
    | nil =>
        cases hnext
    | cons token rest =>
        cases hnext
        exact ⟨[token], rest, rfl, rfl, rfl, trivial⟩
  refuses := by
    intro tokens stop e after _ h
    cases h

theorem bind {first : Parser α} {second : α → Parser β} {language : Language α}
    {language' : α → Language β} (hfirst : Reads before first language between)
    (hsecond : ∀ a, Reads between (second a) (language' a) behind)
    (hbetween : ∀ {a tokens b rest}, language' a (kinds tokens) b → behind (nextKind rest) →
      between (nextKind (tokens ++ rest)))
    (hsome : ∀ a, ∃ list b, language' a list b) :
    Reads before (first >>= second) (language.andThen language') behind where
  accepts := by
    intro tokens b hmem rest hbehind stop
    rcases hmem with ⟨front, back, a, hkinds, hfront, hback⟩
    rcases kinds_eq_append hkinds with ⟨left, right, rfl, rfl, rfl⟩
    rw [List.append_assoc, run_bind_ok (hfirst.accepts hfront (hbetween hback hbehind) stop)]
    exact (hsecond a).accepts hback hbehind stop
  returns := by
    intro tokens stop b after hbefore h
    rcases of_run_bind_ok h with ⟨a, _, ha, hb⟩
    rcases hfirst.returns hbefore ha with ⟨taken, left, rfl, rfl, hlanguage, hnext⟩
    rcases (hsecond a).returns hnext hb with ⟨taken', left', rfl, rfl, hlanguage', hbehind⟩
    exact ⟨taken ++ taken', left', by rw [List.append_assoc], rfl,
      ⟨kinds taken, kinds taken', a, kinds_append taken taken', hlanguage, hlanguage'⟩, hbehind⟩
  refuses := by
    intro tokens stop e after hbefore h
    rcases of_run_bind_error h with he | ⟨a, _, ha, he⟩
    · rcases hfirst.refuses hbefore he with ⟨taken, left, rfl, rfl, hrefusal⟩
      refine ⟨taken, left, rfl, rfl, hrefusal.bind ?_⟩
      intro list a hlanguage
      rcases hsome a with ⟨list', b, hlanguage'⟩
      exact ⟨list', b, list, list', a, rfl, hlanguage, hlanguage'⟩
    · rcases hfirst.returns hbefore ha with ⟨taken, left, rfl, rfl, hlanguage, hnext⟩
      rcases (hsecond a).refuses hnext he with ⟨taken', left', rfl, rfl, hrefusal⟩
      refine ⟨taken ++ taken', left', by rw [List.append_assoc], rfl, hrefusal.after taken ?_ ?_⟩
      · intro list b hlanguage'
        exact ⟨b, kinds taken, list, a, rfl, hlanguage, hlanguage'⟩
      · -- The first reader sees the same next token, so it still stops where it stopped.
        intro token htoken rest stop' e' after' herror
        rw [← nextKind_append_of_head htoken rest] at hnext
        rw [run_bind_ok (hfirst.accepts hlanguage hnext stop')]
        exact herror

theorem map {reader : Parser α} {language : Language α} (h : Reads before reader language behind)
    (f : α → β) :
    Reads before (reader >>= fun a => pure (f a)) (fun list b => ∃ a, language list a ∧ f a = b)
      behind where
  accepts := by
    intro tokens b hmem rest hbehind stop
    rcases hmem with ⟨a, hlanguage, rfl⟩
    rw [run_bind_ok (h.accepts hlanguage hbehind stop)]
    rfl
  returns := by
    intro tokens stop b after hbefore hok
    rcases of_run_bind_ok hok with ⟨a, _, ha, hb⟩
    cases hb
    rcases h.returns hbefore ha with ⟨taken, left, htokens, hafter, hlanguage, hbehind⟩
    exact ⟨taken, left, htokens, hafter, ⟨a, hlanguage, rfl⟩, hbehind⟩
  refuses := by
    intro tokens stop e after hbefore herror
    rcases of_run_bind_error herror with he | ⟨a, _, _, hb⟩
    · rcases h.refuses hbefore he with ⟨taken, left, htokens, hafter, hrefusal⟩
      refine ⟨taken, left, htokens, hafter, hrefusal.bind ?_⟩
      intro list a hlanguage
      exact viable_of_mem ⟨a, hlanguage, rfl⟩
    · cases hb

/-- A reader may keep the position of its first token for the errors that it reports. -/
theorem ofPosition {reader : Parser α} {readerAt : Nat → Parser α} {language : Language α}
    (h : ∀ position, Reads before (readerAt position) language behind)
    (hrun : ∀ tokens stop, before (nextKind tokens) →
      reader ⟨tokens, stop⟩ = readerAt (TokenStream.mk tokens stop).position ⟨tokens, stop⟩)
    (hbefore : ∀ {tokens value rest}, language (kinds tokens) value → behind (nextKind rest) →
      before (nextKind (tokens ++ rest))) :
    Reads before reader language behind where
  accepts := by
    intro tokens value hlanguage rest hbehind stop
    rw [hrun _ _ (hbefore hlanguage hbehind)]
    exact (h _).accepts hlanguage hbehind stop
  returns := by
    intro tokens stop value after hnext hok
    rw [hrun _ _ hnext] at hok
    exact (h _).returns hnext hok
  refuses := by
    intro tokens stop e after hnext herror
    rw [hrun _ _ hnext] at herror
    rcases (h _).refuses hnext herror with ⟨taken, left, rfl, hafter, hrefusal⟩
    refine ⟨taken, left, rfl, hafter, hrefusal.after [] (fun _ value h => ⟨value, h⟩) ?_⟩
    intro token htoken rest stop' e' after' he
    have hposition : (TokenStream.mk (taken ++ token :: rest) stop').position =
        (TokenStream.mk (taken ++ left) stop).position := by
      cases left with
      | nil =>
          cases htoken
      | cons head tail =>
          cases htoken
          cases taken <;> rfl
    rw [← nextKind_append_of_head htoken rest] at hnext
    rw [List.nil_append, hrun _ _ hnext, hposition]
    exact he

theorem weaken {before' : Lookahead} {reader : Parser α} {language : Language α}
    (h : Reads before reader language behind) (hbefore : ∀ next, before' next → before next) :
    Reads before' reader language behind where
  accepts := h.accepts
  returns := fun hnext => h.returns (hbefore _ hnext)
  refuses := fun hnext => h.refuses (hbefore _ hnext)

/-- Two descriptions of one reader, by what the next token may be. -/
theorem union {reader : Parser α} {language language' : Language α}
    (hyes : Reads before reader language behind)
    (hno : Reads (fun next => ¬before next) reader language' behind) :
    Reads anyNext reader (fun list value => language list value ∨ language' list value) behind where
  accepts := by
    intro tokens value hlanguage rest hbehind stop
    rcases hlanguage with hlanguage | hlanguage
    · exact hyes.accepts hlanguage hbehind stop
    · exact hno.accepts hlanguage hbehind stop
  returns := by
    intro tokens stop value after _ hok
    by_cases hnext : before (nextKind tokens)
    · rcases hyes.returns hnext hok with ⟨taken, left, htokens, hafter, hlanguage, hbehind⟩
      exact ⟨taken, left, htokens, hafter, Or.inl hlanguage, hbehind⟩
    · rcases hno.returns hnext hok with ⟨taken, left, htokens, hafter, hlanguage, hbehind⟩
      exact ⟨taken, left, htokens, hafter, Or.inr hlanguage, hbehind⟩
  refuses := by
    intro tokens stop e after _ herror
    by_cases hnext : before (nextKind tokens)
    · rcases hyes.refuses hnext herror with ⟨taken, left, htokens, hafter, hrefusal⟩
      refine ⟨taken, left, htokens, hafter, hrefusal.blames, ?_, hrefusal.hopeless⟩
      rcases hrefusal.viable with ⟨more, value, hlanguage⟩
      exact ⟨more, value, Or.inl hlanguage⟩
    · rcases hno.refuses hnext herror with ⟨taken, left, htokens, hafter, hrefusal⟩
      refine ⟨taken, left, htokens, hafter, hrefusal.blames, ?_, hrefusal.hopeless⟩
      rcases hrefusal.viable with ⟨more, value, hlanguage⟩
      exact ⟨more, value, Or.inr hlanguage⟩

/-- A choice by the kind of the next token. -/
theorem branch {kind : TokenKind} {yes no : Parser α} {language language' : Language α}
    (hyes : Reads (fun next => next = some kind) yes language behind)
    (hno : Reads (fun next => next ≠ some kind) no language' behind)
    (hstarts : ∀ {list value}, language list value → list.head? = some kind)
    (hstarts' : ∀ {list value}, language' list value →
      ∃ other, other ≠ kind ∧ list.head? = some other) :
    Reads anyNext (do if (← get).kind? = some kind then yes else no)
      (fun list value => language list value ∨ language' list value) behind := by
  refine union (ofPosition (fun _ => hyes) ?_ ?_) (ofPosition (fun _ => hno) ?_ ?_)
  · intro tokens stop hnext
    rw [run_bind_ok (run_get _), TokenStream.kind?_mk, if_pos hnext]
  · intro tokens value rest hlanguage _
    exact nextKind_of_head (hstarts hlanguage) rest
  · intro tokens stop hnext
    rw [run_bind_ok (run_get _), TokenStream.kind?_mk, if_neg hnext]
  · intro tokens value rest hlanguage _ hnext
    rcases hstarts' hlanguage with ⟨other, hother, hhead⟩
    rw [nextKind_of_head hhead rest] at hnext
    exact hother (Option.some.inj hnext)

end Reads

end Query
end RecordFilter
