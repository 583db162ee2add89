import ChatScript.Proofs.Completeness
import ChatScript.Proofs.NormalForm

/-! # Statements and keywords

The keywords of an accepted script are the skeleton of its program. No keyword goes into an
expression (`FormsValue.isInner`), so the tokens of a clause hold its own keywords, those of the
statements inside of it, and no others: in the order in which the statements start
(`Forms.headings`), and of every keyword as many as there are statements written with it
(`Forms.count_keyword`). Hence no statement is lost, written twice or moved
(`Program.headings_of_parse`).
-/

namespace ChatScript

/-- The keywords of a statement, apart from those of the statements inside of it. -/
@[simp]
def Statement.keywords : Statement → List Keyword
  | .set _ _ _ => [.set]
  | .send _ _ => [.send]
  | .conditional _ _ none _ => [.when, .then, .end]
  | .conditional _ _ (some _) _ => [.when, .then, .else, .end]

/-- The keyword that a statement starts with. -/
@[simp]
def Statement.keyword : Statement → Keyword
  | .set _ _ _ => .set
  | .conditional _ _ _ _ => .when
  | .send _ _ => .send

/-- The keyword and the line that a statement starts with. -/
@[simp]
def Statement.heading (statement : Statement) : Keyword × Nat :=
  (statement.keyword, statement.line)

/-- Whether a statement is a `when`. -/
def Statement.isConditional : Statement → Bool
  | .conditional _ _ _ _ => true
  | .set _ _ _ | .send _ _ => false

/-- Whether a statement is a `when` with an `else` branch. -/
def Statement.hasElse : Statement → Bool
  | .conditional _ _ (some _) _ => true
  | .conditional _ _ none _ | .set _ _ _ | .send _ _ => false

/-- Whether a statement is written with a keyword. -/
def Statement.uses (word : Keyword) (statement : Statement) : Bool :=
  word ∈ statement.keywords

/-- What the keywords that start no statement belong to. -/
theorem Statement.uses_eq :
    uses .then = isConditional ∧ uses .end = isConditional ∧ uses .else = hasElse := by
  have each (statement : Statement) : uses .then statement = statement.isConditional ∧
      uses .end statement = statement.isConditional ∧
      uses .else statement = statement.hasElse := by
    cases statement with
    | conditional _ _ elseBranch => cases elseBranch <;> exact ⟨rfl, rfl, rfl⟩
    | set | send => exact ⟨rfl, rfl, rfl⟩
  exact ⟨funext fun first => (each first).1, funext fun first => (each first).2.1,
    funext fun first => (each first).2.2⟩

/-- The keyword and the line of a token that starts a statement. -/
def Token.heading? (token : Token) : Option (Keyword × Nat) :=
  match token.kind with
  | .keyword word => if word.startsStatement then some (word, token.line) else none
  | _ => none

/-- Whether a token is a keyword. -/
def Token.spells (word : Keyword) (token : Token) : Bool :=
  token.kind = .keyword word

/-! ## Keywords of a clause -/

attribute [local simp] Clause.statements Statement.substatements Statement.line
  Keyword.startsStatement

namespace FormsValue

variable {tokens : List Token} {value : Expr} (forms : FormsValue tokens value)

include forms

theorem filterMap_heading?_eq_nil : tokens.filterMap Token.heading? = [] := by
  rw [List.filterMap_eq_nil_iff]
  intro token member
  have isInner := forms.isInner token member
  unfold Token.heading?
  split
  · rename_i keyword
    rw [keyword] at isInner
    contradiction
  · rfl

theorem countP_spells_eq_zero (word : Keyword) : tokens.countP (Token.spells word) = 0 := by
  rw [List.countP_eq_zero]
  intro token member spelled
  have isInner := forms.isInner token member
  rw [of_decide_eq_true spelled] at isInner
  contradiction

end FormsValue

/-- The tokens of a clause that start statements are those its statements start with. -/
theorem Forms.headings {levels : Nat} {clause : Clause} {tokens : List Token}
    (forms : Forms levels clause tokens) :
    tokens.filterMap Token.heading? = clause.statements.map Statement.heading := by
  induction forms with
  | set isSet isName value =>
      simp [Token.heading?, isSet, isName, value.filterMap_heading?_eq_nil]
  | assign isSet isName isAssign value =>
      simp [Token.heading?, isSet, isName, isAssign, value.filterMap_heading?_eq_nil]
  | send isSend value =>
      simp [Token.heading?, isSend, value.filterMap_heading?_eq_nil]
  | conditional isWhen condition isThen _ isEnd thens =>
      simp [Token.heading?, isWhen, condition.filterMap_heading?_eq_nil, isThen, thens, isEnd]
  | alternative isWhen condition isThen _ isElse _ isEnd thens elses =>
      simp [Token.heading?, isWhen, condition.filterMap_heading?_eq_nil, isThen, thens, isElse,
        elses, isEnd]
  | empty => rfl
  | newline isNewline _ ih => simpa [Token.heading?, isNewline] using ih
  | next _ _ first others =>
      rw [List.filterMap_append, first, others, ← List.map_append]
      rfl

/-- A keyword is found among the tokens of a clause as often as statements are written with it. -/
theorem Forms.count_keyword {levels : Nat} {clause : Clause} {tokens : List Token}
    (forms : Forms levels clause tokens) (word : Keyword) :
    tokens.countP (Token.spells word) = clause.statements.countP (Statement.uses word) := by
  induction forms with
  | set isSet isName value =>
      simp [Token.spells, Statement.uses, isSet, isName, value.countP_spells_eq_zero,
        List.countP_cons, eq_comm]
  | assign isSet isName isAssign value =>
      simp [Token.spells, Statement.uses, isSet, isName, isAssign, value.countP_spells_eq_zero,
        List.countP_cons, eq_comm]
  | send isSend value =>
      simp [Token.spells, Statement.uses, isSend, value.countP_spells_eq_zero, List.countP_cons,
        eq_comm]
  | conditional isWhen condition isThen _ isEnd thens =>
      -- Every keyword stands at most once outside of the branches.
      cases word <;>
        simp [Token.spells, Statement.uses, isWhen, condition.countP_spells_eq_zero, isThen, thens,
          isEnd]
  | alternative isWhen condition isThen _ isElse _ isEnd thens elses =>
      cases word <;>
        simp [Token.spells, Statement.uses, isWhen, condition.countP_spells_eq_zero, isThen, thens,
          isElse, elses, isEnd, Nat.add_assoc]
  | empty => rfl
  | newline isNewline _ ih => simpa [Token.spells, isNewline] using ih
  | next _ _ first others =>
      rw [List.countP_append, first, others, ← List.countP_append]
      rfl

namespace Program

/-- **No statement is lost, written twice or moved.** The statements of an accepted script, those of
a `then` branch before those of its `else` branch, are of the kinds and on the lines of its `set`,
`when` and `send` tokens. There are as many `then` tokens and as many `end` tokens as conditionals,
and as many `else` tokens as conditionals with an `else` branch. -/
theorem headings_of_parse {limit : Nat} {source : String} {program : Program}
    (parsed : parse limit source = .ok program) :
    program.allStatements.map Statement.heading = (tokenize source).filterMap Token.heading? ∧
      (tokenize source).countP (Token.spells .then) =
        program.allStatements.countP Statement.isConditional ∧
      (tokenize source).countP (Token.spells .end) =
        program.allStatements.countP Statement.isConditional ∧
      (tokenize source).countP (Token.spells .else) =
        program.allStatements.countP Statement.hasElse := by
  obtain ⟨-, forms⟩ := parse_eq_ok_iff_forms.mp parsed
  obtain ⟨thens, ends, elses⟩ := Statement.uses_eq
  refine ⟨forms.headings.symm, ?_, ?_, ?_⟩
  · rw [← thens]
    exact forms.count_keyword .then
  · rw [← ends]
    exact forms.count_keyword .end
  · rw [← elses]
    exact forms.count_keyword .else

/-- A `when` in a branch of a `when`, with keywords in a string and in a comment. -/
def entangled : String :=
  "when 1 then when x then send 'set' else # end\nsend 3 end end\nset y 4"

/-- The same script as it is printed. -/
def disentangled : String :=
  "when 1 then\n  when x then\n    send \"set\"\n  else\n    send 3\n  end\nend\nset y 4\n"

/-- Only the keywords of statements count, and not those in a string or in a comment. -/
theorem headings_of_parse_entangled :
    ∃ program, parse 2 entangled = .ok program ∧ program.render = disentangled ∧
      program.allStatements.map Statement.heading =
        [(.when, 1), (.when, 1), (.send, 1), (.send, 2), (.set, 3)] ∧
      program.allStatements.countP Statement.isConditional = 2 ∧
      program.allStatements.countP Statement.hasElse = 1 ∧
      (tokenize entangled).countP (Token.spells .end) = 2 := by
  have accepted : (parse 2 entangled).toOption.map render = some disentangled := by
    decide +kernel
  obtain ⟨program, parsed, printed⟩ := exists_parse_of_render accepted
  obtain ⟨headings, thens, ends, elses⟩ := headings_of_parse parsed
  have thenTokens : (tokenize entangled).countP (Token.spells .then) = 2 := by decide +kernel
  have elseTokens : (tokenize entangled).countP (Token.spells .else) = 1 := by decide +kernel
  exact ⟨program, parsed, printed, headings.trans (by decide +kernel), thens ▸ thenTokens,
    elses ▸ elseTokens, ends.trans (thens ▸ thenTokens)⟩

end Program

end ChatScript
