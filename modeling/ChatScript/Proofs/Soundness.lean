import ChatScript.Program.Parser
import ChatScript.Proofs.Grammar

/-! # What the parser accepts

Whatever the parser returns has a derivation: the tokens that a parser has read make up the tree
that it returns, and what it has counted against the budget is the size of the derivation
(`expressionAt_took`, `forms_of_programOfTokens`). The lemmas follow the functions of the parser
one by one; the parser of nested expressions is a parameter until the recursion is tied.
-/

namespace ChatScript

/-- A sequence comes to a result if both of its steps do. -/
theorem bind_eq_ok_iff {ε α β : Type} {first : Except ε α} {next : α → Except ε β} {result : β} :
    (first >>= next) = .ok result ↔ ∃ value, first = .ok value ∧ next value = .ok result := by
  cases first with
  | error fault => simp [bind, Except.bind]
  | ok value => simp [bind, Except.bind]

theorem ok_bind {ε α β : Type} (value : α) (next : α → Except ε β) :
    (Except.ok value >>= next) = next value :=
  rfl

/-- Reading the phrase leads from one cursor to another: the tokens in between derive it, and its
size has been counted without going over the budget. -/
def Took (phrase : Phrase) (before after : Cursor) : Prop :=
  ∃ tokens size, before.rest = tokens ++ after.rest ∧
    Derives phrase (tokens.map Token.kind) size ∧ after.spent = before.spent + size ∧
    (before.spent ≤ maxExpressionSize → after.spent ≤ maxExpressionSize)

/-- A step to another phrase that is made up of the same tokens. -/
theorem Took.mono {phrase other : Phrase} {before after : Cursor} (took : Took phrase before after)
    (step : ∀ {kinds size}, Derives phrase kinds size → Derives other kinds size) :
    Took other before after := by
  obtain ⟨tokens, size, whole, derivation, counted, within⟩ := took
  exact ⟨tokens, size, whole, step derivation, counted, within⟩

/-- Whatever the parser returns, it took the tokens of that phrase. -/
def Faithful (parser : Parser Expr) (phrase : Expr → Phrase) : Prop :=
  ∀ before value after, parser before = .ok (value, after) → Took (phrase value) before after

theorem spend_eq_ok_iff {line spent counted : Nat} :
    spend line spent = .ok counted ↔ spent < maxExpressionSize ∧ counted = spent + 1 := by
  unfold spend
  split
  · rename_i room
    simp [room, eq_comm]
  · rename_i full
    simp [full]

namespace Cursor

/-- A cursor spends from the budget and stays where it is. -/
theorem grow_eq_ok_iff {line : Nat} {before after : Cursor} :
    before.grow line = .ok after ↔
      before.spent < maxExpressionSize ∧ after = ⟨before.rest, before.spent + 1⟩ := by
  simp only [grow, bind_eq_ok_iff, spend_eq_ok_iff, Except.ok.injEq]
  constructor
  · rintro ⟨spent, ⟨room, rfl⟩, rfl⟩
    exact ⟨room, rfl⟩
  · rintro ⟨room, rfl⟩
    exact ⟨_, ⟨room, rfl⟩, rfl⟩

/-- Closing takes a closing parenthesis and spends nothing. -/
theorem close_eq_ok {setting : Setting} {before after : Cursor}
    (closed : before.close setting = .ok after) :
    ∃ token, token.kind = .closeParen ∧ before.rest = token :: after.rest ∧
      after.spent = before.spent := by
  unfold close at closed
  split at closed
  · rename_i lexeme line rest found
    simp only [Except.ok.injEq] at closed
    subst closed
    exact ⟨_, rfl, found, rfl⟩
  · simp at closed

end Cursor

section Expressions

variable {nested : Parser Expr}

/-- The arguments of a call take the tokens up to its closing parenthesis. -/
theorem argumentsUpTo_took (faithful : Faithful nested .expression)
    {function : String} {bound : List Token} {before after : Cursor} {values : List Expr}
    (read : argumentsUpTo nested function bound before = .ok (values, after)) :
    ∃ closing, closing.kind = .closeParen ∧
      Took (.arguments values) before ⟨closing :: after.rest, after.spent⟩ := by
  induction bound generalizing before values with
  | nil => simp [argumentsUpTo] at read
  | cons _ bound ih =>
      simp only [argumentsUpTo, bind_eq_ok_iff] at read
      obtain ⟨⟨value, middle⟩, first, read⟩ := read
      obtain ⟨tokens, size, whole, derivation, counted, within⟩ := faithful _ _ _ first
      dsimp only at read
      split at read
      · rename_i lexeme line rest comma
        simp only [bind_eq_ok_iff, Except.ok.injEq, Prod.mk.injEq] at read
        obtain ⟨⟨others, last⟩, inside, rfl, rfl⟩ := read
        obtain ⟨closing, closes, others, more, wholeOthers, derivationOthers, countedOthers,
          withinOthers⟩ := ih inside
        refine ⟨closing, closes, tokens ++ ⟨.comma, lexeme, line⟩ :: others, size + more,
          ?_, ?_, ?_, fun room => withinOthers (within room)⟩
        · dsimp only at wholeOthers
          rw [whole, comma, wholeOthers, List.append_assoc, List.cons_append]
        · simpa using Derives.argument derivation derivationOthers
        · dsimp only at countedOthers ⊢
          omega
      · rename_i lexeme line rest paren
        simp only [Except.ok.injEq, Prod.mk.injEq] at read
        obtain ⟨rfl, rfl⟩ := read
        exact ⟨⟨.closeParen, lexeme, line⟩, rfl, tokens, size, by rw [whole, paren],
          .lastArgument derivation, counted, within⟩
      · simp at read

/-- A call takes the tokens from behind its opening parenthesis up to its closing one. -/
theorem call_took (faithful : Faithful nested .expression) {function : String} {line : Nat}
    {before after : Cursor} {value : Expr}
    (read : call nested function line before = .ok (value, after)) (name opening : Token)
    (named : name.kind = .identifier function) (opens : opening.kind = .openParen) :
    ∃ arguments, value = .call function arguments ∧
      Took (.call function arguments) ⟨name :: opening :: before.rest, before.spent⟩ after := by
  simp only [call, bind_eq_ok_iff, Cursor.grow_eq_ok_iff] at read
  obtain ⟨grown, ⟨room, rfl⟩, read⟩ := read
  dsimp only at read
  split at read
  · rename_i lexeme line rest paren
    simp only [Except.ok.injEq, Prod.mk.injEq] at read
    obtain ⟨rfl, rfl⟩ := read
    refine ⟨[], rfl, [name, opening, ⟨.closeParen, lexeme, line⟩], 1, ?_, ?_, rfl, fun _ => room⟩
    · simp [paren]
    · simpa [named, opens] using Derives.emptyCall function
  · simp only [bind_eq_ok_iff, Except.ok.injEq, Prod.mk.injEq] at read
    obtain ⟨⟨arguments, last⟩, inside, rfl, rfl⟩ := read
    obtain ⟨closing, closes, tokens, size, whole, derivation, counted, within⟩ :=
      argumentsUpTo_took faithful inside
    refine ⟨arguments, rfl, name :: opening :: (tokens ++ [closing]), size + 1, ?_, ?_, ?_,
      fun _ => within room⟩
    · dsimp only at whole
      simp [whole]
    · have derived : Derives (.call function arguments) _ _ := .call derivation
      simpa [named, opens, closes] using derived
    · dsimp only at counted ⊢
      omega

/-- Targets are read as the grammar says if the expressions in them are. -/
theorem faithful_target (faithful : Faithful nested .expression) :
    Faithful (target nested) .target := by
  rintro ⟨tokens, spent⟩ value after read
  unfold target at read
  dsimp only at read
  split at read
  · rename_i name _ _ _ line rest
    obtain ⟨arguments, rfl, took⟩ :=
      call_took faithful read ⟨.identifier name, _, _⟩ ⟨.openParen, _, _⟩ rfl rfl
    exact took.mono .targetCall
  · rename_i name lexeme line rest _
    simp only [Except.ok.injEq, Prod.mk.injEq] at read
    obtain ⟨rfl, rfl⟩ := read
    exact ⟨[⟨.identifier name, lexeme, line⟩], 0, rfl, .name name, rfl, id⟩
  · rename_i position lexeme line rest
    simp only [Except.ok.injEq, Prod.mk.injEq] at read
    obtain ⟨rfl, rfl⟩ := read
    exact ⟨[⟨.number position, lexeme, line⟩], 0, rfl, .position position, rfl, id⟩
  · simp at read

/-- The body of a reference in a string literal is derived as a whole. -/
theorem embedded_derives (faithful : Faithful nested .expression) {line spent counted : Nat}
    {body : String} {value : Expr} (read : embedded nested line body spent = .ok (value, counted)) :
    ∃ size, Derives (.target value) ((tokenize body).map Token.kind) size ∧
      counted = spent + size ∧ (spent ≤ maxExpressionSize → counted ≤ maxExpressionSize) := by
  unfold embedded at read
  split at read
  · simp at read
  · split at read
    · simp at read
    · rename_i found
      simp only [Except.ok.injEq, Prod.mk.injEq] at read
      obtain ⟨rfl, rfl⟩ := read
      obtain ⟨tokens, size, whole, derivation, counted, within⟩ :=
        faithful_target faithful _ _ _ found
      refine ⟨size, ?_, counted, within⟩
      have kinds := congrArg (List.map Token.kind) whole
      simp only [List.map_map, List.append_nil] at kinds
      rw [← kinds] at derivation
      exact derivation
    · simp at read

/-- The parts of a literal are read as the grammar says, and the budget goes on from one to the
next. -/
theorem literalParts_derives (faithful : Faithful nested .expression) {line spent counted : Nat}
    {fragments : List Fragment} {values : List Expr}
    (read : literalParts nested line fragments spent = .ok (values, counted)) :
    ∃ size, Derives (.parts values) [.literal fragments] size ∧ counted = spent + size ∧
      (spent ≤ maxExpressionSize → counted ≤ maxExpressionSize) := by
  induction fragments generalizing spent values with
  | nil =>
      simp only [literalParts, Except.ok.injEq, Prod.mk.injEq] at read
      obtain ⟨rfl, rfl⟩ := read
      exact ⟨0, .noPart, rfl, id⟩
  | cons fragment fragments ih =>
      cases fragment with
      | text content =>
          simp only [literalParts, bind_eq_ok_iff, Except.ok.injEq, Prod.mk.injEq] at read
          obtain ⟨⟨others, last⟩, inside, rfl, rfl⟩ := read
          obtain ⟨size, derivation, counts⟩ := ih inside
          exact ⟨size, .textPart content derivation, counts⟩
      | reference body =>
          simp only [literalParts, bind_eq_ok_iff, spend_eq_ok_iff, Except.ok.injEq,
            Prod.mk.injEq] at read
          obtain ⟨_, ⟨room, rfl⟩, ⟨value, middle⟩, first, ⟨others, last⟩, inside, rfl, rfl⟩ := read
          obtain ⟨size, derivation, counted, within⟩ := embedded_derives faithful first
          obtain ⟨more, derivationOthers, countedOthers, withinOthers⟩ := ih inside
          refine ⟨size + 1 + more, .referencePart derivation derivationOthers, ?_,
            fun _ => withinOthers (within room)⟩
          dsimp only at countedOthers ⊢
          omega

/-- A string literal is derived from its parts, whether it has one of them or several. -/
theorem derives_joinParts {values : List Expr} {fragments : List Fragment} {size : Nat}
    (derivation : Derives (.parts values) [.literal fragments] size) :
    Derives (.operand (joinParts values)) [.literal fragments] size := by
  unfold joinParts
  split
  · exact .single derivation
  · rename_i plural
    refine .several ?_ derivation
    intro one
    obtain ⟨value, rfl⟩ := List.length_eq_one_iff.mp one
    exact plural value rfl

/-- Operands are read as the grammar says if the expressions in them are. -/
theorem faithful_primary (faithful : Faithful nested .expression) :
    Faithful (primary nested) .operand := by
  rintro ⟨tokens, spent⟩ value after read
  unfold primary at read
  dsimp only at read
  split at read
  · simp at read
  · rename_i token rest
    split at read
    · rename_i fragments kind
      simp only [bind_eq_ok_iff, Except.ok.injEq, Prod.mk.injEq] at read
      obtain ⟨⟨parts, counted⟩, inside, rfl, rfl⟩ := read
      obtain ⟨size, derivation, counts⟩ := literalParts_derives faithful inside
      refine ⟨[token], size, rfl, ?_, counts⟩
      simpa [kind] using derives_joinParts derivation
    · rename_i number kind
      simp only [Except.ok.injEq, Prod.mk.injEq] at read
      obtain ⟨rfl, rfl⟩ := read
      exact ⟨[token], 0, rfl, by simpa [kind] using Derives.number number, rfl, id⟩
    · rename_i flag kind
      simp only [Except.ok.injEq, Prod.mk.injEq] at read
      obtain ⟨rfl, rfl⟩ := read
      exact ⟨[token], 0, rfl, by simpa [kind] using Derives.boolean flag, rfl, id⟩
    · rename_i kind
      split at read
      · rename_i number lexeme line others
        simp only [Except.ok.injEq, Prod.mk.injEq] at read
        obtain ⟨rfl, rfl⟩ := read
        exact ⟨[token, ⟨.number number, lexeme, line⟩], 0, rfl,
          by simpa [kind] using Derives.negative number, rfl, id⟩
      · simp at read
    · rename_i name kind
      split at read
      · rename_i lexeme line others
        obtain ⟨arguments, rfl, took⟩ :=
          call_took faithful read token ⟨.openParen, lexeme, line⟩ kind rfl
        exact took.mono .called
      · simp only [Except.ok.injEq, Prod.mk.injEq] at read
        obtain ⟨rfl, rfl⟩ := read
        exact ⟨[token], 0, rfl, by simpa [kind] using Derives.named name, rfl, id⟩
    · rename_i kind
      simp only [bind_eq_ok_iff, Cursor.grow_eq_ok_iff] at read
      obtain ⟨_, ⟨room, rfl⟩, read⟩ := read
      split at read
      · rename_i lexeme line others
        simp only [bind_eq_ok_iff, Except.ok.injEq, Prod.mk.injEq] at read
        obtain ⟨⟨target, inner⟩, inside, last, closed, rfl, rfl⟩ := read
        obtain ⟨between, size, whole, derivation, counted, within⟩ :=
          faithful_target faithful _ _ _ inside
        obtain ⟨closing, closes, ending, unspent⟩ := Cursor.close_eq_ok closed
        refine ⟨token :: ⟨.openParen, lexeme, line⟩ :: (between ++ [closing]), size + 1, ?_, ?_, ?_,
          fun _ => unspent ▸ within room⟩
        · dsimp only at whole ending
          simp [whole, ending]
        · simpa [kind, closes] using Derives.referred derivation
        · dsimp only at counted unspent ⊢
          omega
      · simp at read
    · rename_i kind
      simp only [bind_eq_ok_iff, Cursor.grow_eq_ok_iff, Except.ok.injEq, Prod.mk.injEq] at read
      obtain ⟨_, ⟨room, rfl⟩, ⟨inner, middle⟩, inside, last, closed, rfl, rfl⟩ := read
      obtain ⟨between, size, whole, derivation, counted, within⟩ := faithful _ _ _ inside
      obtain ⟨closing, closes, ending, unspent⟩ := Cursor.close_eq_ok closed
      refine ⟨token :: (between ++ [closing]), size + 1, ?_, ?_, ?_,
        fun _ => unspent ▸ within room⟩
      · dsimp only at whole ending
        simp [whole, ending]
      · simpa [kind, closes] using Derives.group derivation
      · dsimp only at counted unspent ⊢
        omega
    · simp at read
    · simp at read

theorem additiveOp?_eq_some {kind : TokenKind} {op : BinaryOp}
    (found : additiveOp? kind = some op) :
    ∃ mark, kind = .operator mark ∧ AdditiveMark mark op := by
  unfold additiveOp? at found
  split at found <;> simp only [Option.some.injEq, reduceCtorEq] at found <;> subst found
  · exact ⟨_, rfl, .plus⟩
  · exact ⟨_, rfl, .minus⟩

theorem comparisonOp?_eq_some {kind : TokenKind} {op : BinaryOp}
    (found : comparisonOp? kind = some op) :
    ∃ mark, kind = .operator mark ∧ ComparisonMark mark op := by
  unfold comparisonOp? at found
  split at found <;> simp only [Option.some.injEq, reduceCtorEq] at found <;> subst found <;>
    exact ⟨_, rfl, by constructor⟩

/-- Reading on from a sum gives a sum: the loop adds one operand after the other on the right. -/
theorem sumUpTo_took (faithful : Faithful nested .expression) {bound : List Token}
    {start before after : Cursor} {left value : Expr} (took : Took (.sum left) start before)
    (read : sumUpTo nested bound left before = .ok (value, after)) :
    Took (.sum value) start after := by
  induction bound generalizing before left with
  | nil =>
      simp only [sumUpTo, Except.ok.injEq, Prod.mk.injEq] at read
      obtain ⟨rfl, rfl⟩ := read
      exact took
  | cons _ bound ih =>
      unfold sumUpTo at read
      split at read
      · simp only [Except.ok.injEq, Prod.mk.injEq] at read
        obtain ⟨rfl, rfl⟩ := read
        exact took
      · rename_i token rest found
        split at read
        · simp only [Except.ok.injEq, Prod.mk.injEq] at read
          obtain ⟨rfl, rfl⟩ := read
          exact took
        · rename_i op isOp
          simp only [bind_eq_ok_iff, Cursor.grow_eq_ok_iff] at read
          obtain ⟨_, ⟨room, rfl⟩, ⟨right, middle⟩, inside, read⟩ := read
          refine ih ?_ read
          obtain ⟨lefts, m, whole, derivation, counted, within⟩ := took
          obtain ⟨rights, n, wholeRight, derivationRight, countedRight, withinRight⟩ :=
            faithful_primary faithful _ _ _ inside
          obtain ⟨mark, kind, isMark⟩ := additiveOp?_eq_some isOp
          refine ⟨lefts ++ token :: rights, m + n + 1, ?_, ?_, ?_, fun _ => withinRight room⟩
          · dsimp only at wholeRight
            rw [whole, found, wholeRight, List.append_assoc, List.cons_append]
          · simpa [kind] using Derives.join isMark derivation derivationRight
          · dsimp only at countedRight ⊢
            omega

/-- Sums are read as the grammar says, one operand after the other. -/
theorem faithful_sum (faithful : Faithful nested .expression) : Faithful (sum nested) .sum := by
  intro before value after read
  simp only [sum, bind_eq_ok_iff] at read
  obtain ⟨⟨left, middle⟩, first, read⟩ := read
  exact sumUpTo_took faithful ((faithful_primary faithful _ _ _ first).mono .operand) read

/-- Expressions are read as the grammar says if those inside of them are. -/
theorem faithful_comparison (faithful : Faithful nested .expression) :
    Faithful (comparison nested) .expression := by
  intro before value after read
  simp only [comparison, bind_eq_ok_iff] at read
  obtain ⟨⟨left, middle⟩, first, read⟩ := read
  have took := faithful_sum faithful _ _ _ first
  dsimp only at read
  split at read
  · simp only [Except.ok.injEq, Prod.mk.injEq] at read
    obtain ⟨rfl, rfl⟩ := read
    exact took.mono .sum
  · rename_i token rest found
    split at read
    · simp only [Except.ok.injEq, Prod.mk.injEq] at read
      obtain ⟨rfl, rfl⟩ := read
      exact took.mono .sum
    · rename_i op isOp
      simp only [bind_eq_ok_iff, Cursor.grow_eq_ok_iff, Except.ok.injEq, Prod.mk.injEq] at read
      obtain ⟨_, ⟨room, rfl⟩, ⟨right, last⟩, inside, rfl, rfl⟩ := read
      obtain ⟨lefts, m, whole, derivation, counted, within⟩ := took
      obtain ⟨rights, n, wholeRight, derivationRight, countedRight, withinRight⟩ :=
        faithful_sum faithful _ _ _ inside
      obtain ⟨mark, kind, isMark⟩ := comparisonOp?_eq_some isOp
      refine ⟨lefts ++ token :: rights, m + n + 1, ?_, ?_, ?_, fun _ => withinRight room⟩
      · dsimp only at wholeRight
        rw [whole, found, wholeRight, List.append_assoc, List.cons_append]
      · simpa [kind] using Derives.compare isMark derivation derivationRight
      · dsimp only at countedRight ⊢
        omega

end Expressions

/-- An expression is derived from the tokens that the parser took for it. -/
theorem faithful_expressionAt (levels : Nat) : Faithful (expressionAt levels) .expression := by
  induction levels with
  | zero =>
      intro before value after read
      simp [expressionAt] at read
  | succ levels ih => exact faithful_comparison ih

/-- What is read as the value of a statement forms an expression. -/
theorem statementValue_forms {tokens rest : List Token} {value : Expr}
    (read : statementValue tokens = .ok (value, rest)) :
    ∃ front, tokens = front ++ rest ∧ FormsValue front value := by
  simp only [statementValue, bind_eq_ok_iff, Except.ok.injEq, Prod.mk.injEq] at read
  obtain ⟨⟨_, after⟩, inside, rfl, rfl⟩ := read
  obtain ⟨front, size, whole, derivation, counted, within⟩ := faithful_expressionAt _ _ _ _ inside
  refine ⟨front, whole, size, ?_, derivation⟩
  have room := within (Nat.zero_le _)
  rw [counted, Nat.zero_add] at room
  exact room

section Statements

variable {levels : Nat}

/-- What is read as setting a variable forms such a statement. -/
theorem setStatement_forms {keyword : Token} (isSet : keyword.kind = .keyword .set)
    {tokens rest : List Token} {statement : Statement}
    (read : setStatement keyword.line tokens = .ok (statement, rest)) :
    ∃ front, tokens = front ++ rest ∧ Forms levels (.statement statement) (keyword :: front) := by
  unfold setStatement at read
  split at read
  · rename_i name lexeme line others
    split at read
    · simp at read
    · simp only [bind_eq_ok_iff, Except.ok.injEq, Prod.mk.injEq] at read
      obtain ⟨⟨value, _⟩, inside, rfl, rfl⟩ := read
      obtain ⟨front, whole, forms⟩ := statementValue_forms inside
      unfold skipAssign at whole
      split at whole
      · rename_i markLexeme markLine _ _
        refine ⟨⟨.identifier name, lexeme, line⟩ :: ⟨.operator .assign, markLexeme, markLine⟩ ::
          front, by rw [whole]; rfl, .assign isSet rfl rfl forms⟩
      · refine ⟨⟨.identifier name, lexeme, line⟩ :: front, by rw [whole]; rfl,
          .set isSet rfl forms⟩
  · simp at read

theorem sendStatement_forms {keyword : Token} (isSend : keyword.kind = .keyword .send)
    {tokens rest : List Token} {statement : Statement}
    (read : sendStatement keyword.line tokens = .ok (statement, rest)) :
    ∃ front, tokens = front ++ rest ∧ Forms levels (.statement statement) (keyword :: front) := by
  unfold sendStatement at read
  split at read
  · simp at read
  · simp only [bind_eq_ok_iff, Except.ok.injEq, Prod.mk.injEq] at read
    obtain ⟨⟨value, _⟩, inside, rfl, rfl⟩ := read
    obtain ⟨front, whole, forms⟩ := statementValue_forms inside
    exact ⟨front, whole, .send isSend forms⟩

/-- A parser of blocks returns what the tokens it took make up. -/
def FormsBlocks (levels : Nat) (block : BlockParser (List Statement)) : Prop :=
  ∀ tokens statements rest, block tokens = .ok (statements, rest) →
    ∃ front, tokens = front ++ rest ∧ Forms levels (.block statements) front

/-- A parser of `when` statements returns what the tokens it took make up. -/
def FormsConditionals (levels : Nat) (whenParser : Nat → BlockParser Statement) : Prop :=
  ∀ (keyword : Token) tokens statement rest, keyword.kind = .keyword .when →
    whenParser keyword.line tokens = .ok (statement, rest) →
    ∃ front, tokens = front ++ rest ∧ Forms levels (.statement statement) (keyword :: front)

/-- A conditional is formed by what is read as one, with a level less for its blocks. -/
theorem whenStatement_forms {block : BlockParser (List Statement)}
    (blocks : FormsBlocks levels block) : FormsConditionals (levels + 1) (whenStatement block) := by
  intro keyword tokens statement rest isWhen read
  unfold whenStatement at read
  split at read
  · simp at read
  · simp only [bind_eq_ok_iff] at read
    obtain ⟨⟨condition, _⟩, inside, read⟩ := read
    obtain ⟨front, rfl, forms⟩ := statementValue_forms inside
    dsimp only at read
    split at read
    · rename_i thenLexeme thenLine _ _
      simp only [bind_eq_ok_iff] at read
      obtain ⟨⟨thenBranch, _⟩, first, read⟩ := read
      obtain ⟨thens, rfl, formsThen⟩ := blocks _ _ _ first
      dsimp only at read
      split at read
      · rename_i elseLexeme elseLine _ _
        simp only [bind_eq_ok_iff] at read
        obtain ⟨⟨elseBranch, _⟩, second, read⟩ := read
        obtain ⟨elses, rfl, formsElse⟩ := blocks _ _ _ second
        dsimp only at read
        split at read
        · simp at read
        · rename_i endLexeme endLine _ _
          simp only [Except.ok.injEq, Prod.mk.injEq] at read
          obtain ⟨rfl, rfl⟩ := read
          refine ⟨front ++ ⟨.keyword .then, thenLexeme, thenLine⟩ :: (thens ++
            ⟨.keyword .else, elseLexeme, elseLine⟩ :: (elses ++
              [⟨.keyword .end, endLexeme, endLine⟩])), by simp, ?_⟩
          exact .alternative isWhen forms rfl formsThen rfl formsElse rfl
        · simp at read
      · rename_i endLexeme endLine _ _
        simp only [Except.ok.injEq, Prod.mk.injEq] at read
        obtain ⟨rfl, rfl⟩ := read
        refine ⟨front ++ ⟨.keyword .then, thenLexeme, thenLine⟩ :: (thens ++
          [⟨.keyword .end, endLexeme, endLine⟩]), by simp, ?_⟩
        exact .conditional isWhen forms rfl formsThen rfl
      · simp at read
    · simp at read

/-- What is read as a statement forms one if the conditionals do. -/
theorem statement_forms {whenParser : Nat → BlockParser Statement}
    (conditionals : FormsConditionals levels whenParser) {token : Token} {tokens rest : List Token}
    {result : Statement} (read : statement whenParser token tokens = .ok (result, rest)) :
    ∃ front, tokens = front ++ rest ∧ Forms levels (.statement result) (token :: front) := by
  unfold statement at read
  split at read
  · rename_i isSet
    exact setStatement_forms isSet read
  · rename_i isWhen
    exact conditionals _ _ _ _ isWhen read
  · rename_i isSend
    exact sendStatement_forms isSend read
  · simp at read
  · simp at read
  · simp at read

/-- Newlines in front of a block belong to it. -/
theorem Forms.block_of_skipNewlines {statements : List Statement} {tokens rest others : List Token}
    (skipped : skipNewlines tokens = others ++ rest)
    (forms : Forms levels (.block statements) others) :
    ∃ front, tokens = front ++ rest ∧ Forms levels (.block statements) front := by
  induction tokens with
  | nil => exact ⟨others, skipped, forms⟩
  | cons token tokens ih =>
      by_cases isNewline : token.kind = .newline
      · have shorter : skipNewlines tokens = others ++ rest := by
          simpa [skipNewlines, isNewline] using skipped
        obtain ⟨front, rfl, formsFront⟩ := ih shorter
        exact ⟨token :: front, rfl, .newline isNewline formsFront⟩
      · refine ⟨others, ?_, forms⟩
        simpa [skipNewlines, isNewline] using skipped

/-- Skipping newlines does not give back any token. -/
theorem skipNewlines_length_le (tokens : List Token) :
    (skipNewlines tokens).length ≤ tokens.length :=
  (List.dropWhile_sublist _).length_le

/-- Statements are read up to the end of the tokens or up to a token to stop at. -/
theorem statementsUpTo_forms {whenParser : Nat → BlockParser Statement} {stops : Token → Bool}
    (conditionals : FormsConditionals levels whenParser) {bound tokens rest : List Token}
    {statements : List Statement} (enough : tokens.length ≤ bound.length)
    (read : statementsUpTo whenParser stops bound tokens = .ok (statements, rest)) :
    (∃ front, tokens = front ++ rest ∧ Forms levels (.block statements) front) ∧
      ∀ token ∈ rest.head?, stops token := by
  induction bound generalizing tokens statements with
  | nil =>
      simp only [statementsUpTo, Except.ok.injEq, Prod.mk.injEq] at read
      obtain ⟨rfl, rfl⟩ := read
      obtain rfl := List.length_eq_zero_iff.mp (Nat.le_zero.mp enough)
      exact ⟨⟨[], rfl, .empty⟩, by simp⟩
  | cons _ bound ih =>
      unfold statementsUpTo at read
      split at read
      · rename_i skipped
        simp only [Except.ok.injEq, Prod.mk.injEq] at read
        obtain ⟨rfl, rfl⟩ := read
        exact ⟨Forms.block_of_skipNewlines skipped .empty, by simp⟩
      · rename_i token others skipped
        split at read
        · rename_i stopped
          simp only [Except.ok.injEq, Prod.mk.injEq] at read
          obtain ⟨rfl, rfl⟩ := read
          exact ⟨Forms.block_of_skipNewlines skipped .empty, by simpa using stopped⟩
        · simp only [bind_eq_ok_iff] at read
          obtain ⟨⟨first, after⟩, inside, read⟩ := read
          dsimp only at read
          split at read
          · simp only [bind_eq_ok_iff, Except.ok.injEq, Prod.mk.injEq] at read
            obtain ⟨⟨remaining, last⟩, further, rfl, rfl⟩ := read
            obtain ⟨front, rfl, forms⟩ := statement_forms conditionals inside
            have shorter : after.length ≤ bound.length := by
              have skips := skipNewlines_length_le tokens
              rw [skipped] at skips
              simp only [List.length_cons, List.length_append] at skips enough
              omega
            obtain ⟨⟨back, rfl, formsBack⟩, stopped⟩ := ih shorter further
            refine ⟨Forms.block_of_skipNewlines ?_ (.next forms formsBack), stopped⟩
            simpa using skipped
          · simp at read

/-- Conditionals are formed at every level, since those inside are a level below. -/
theorem whenAt_forms (limit levels : Nat) : FormsConditionals levels (whenAt limit levels) := by
  induction levels with
  | zero =>
      intro keyword tokens statement rest isWhen read
      simp [whenAt] at read
  | succ levels ih =>
      refine whenStatement_forms fun tokens statements rest read => ?_
      exact (statementsUpTo_forms ih (Nat.le_refl _) read).1

end Statements

/-- A block that does not end at once has a statement. -/
theorem statementsUpTo_ne_nil {whenParser : Nat → BlockParser Statement}
    {token : Token} {tokens bound rest : List Token} {statements : List Statement}
    (visible : token.kind ≠ .newline)
    (read : statementsUpTo whenParser (fun _ => false) (token :: bound) (token :: tokens) =
      .ok (statements, rest)) : statements ≠ [] := by
  simp only [statementsUpTo, skipNewlines, visible, decide_false, List.dropWhile_cons,
    Bool.false_eq_true, ↓reduceIte, bind_eq_ok_iff] at read
  obtain ⟨first, -, read⟩ := read
  split at read
  · simp only [bind_eq_ok_iff, Except.ok.injEq, Prod.mk.injEq] at read
    obtain ⟨_, -, rfl, -⟩ := read
    simp
  · simp at read

/-- **Soundness.** The tokens of a program that the parser accepts make up that program. -/
theorem forms_of_programOfTokens {limit : Nat} {tokens : List Token} {program : Program}
    (read : programOfTokens limit tokens = .ok program) : FormsProgram limit tokens program := by
  unfold programOfTokens at read
  split at read
  · simp at read
  · rename_i visible
    simp only [bind_eq_ok_iff, Except.ok.injEq] at read
    obtain ⟨⟨statements, rest⟩, inside, rfl⟩ := read
    obtain ⟨⟨front, whole, forms⟩, stopped⟩ :=
      statementsUpTo_forms (whenAt_forms limit limit) (Nat.le_refl _) inside
    have finished : rest = [] := by
      cases rest with
      | nil => rfl
      | cons token rest => exact absurd (stopped token rfl) (by simp)
    subst finished
    constructor
    · cases skipped : skipNewlines tokens with
      | nil => exact absurd skipped visible
      | cons token others =>
          rw [skipped] at inside
          refine statementsUpTo_ne_nil ?_ inside
          intro isNewline
          have shown := List.head?_dropWhile_not (fun token : Token => token.kind = .newline) tokens
          rw [skipNewlines] at skipped
          simp [skipped, isNewline] at shown
    · obtain ⟨_, rfl, formsAll⟩ := Forms.block_of_skipNewlines whole forms
      simpa using formsAll

end ChatScript
