import ChatScript.Proofs.Concatenation
import ChatScript.Proofs.Headings

/-! # Blocks that are left open

A source that ends inside of `when` blocks is refused for the innermost of them
(`Program.parse_unclosed`). What is missing is said in terms of a source that closes them: followed
by as many lines `end`, the source is a program.

Without the `end` tokens at its back, a block is left open on some lines, each of them inside of
the one before (`LeftOpen`, `exists_leftOpen`). These are the first conditionals on the way from
the last statement of the program to the last statement of its last branch, and so on
(`LeftOpen.lines_prefix`), and they are the blocks that the parser is in when the tokens end, so it
complains about the last of them (`LeftOpen.unread`).
-/

namespace ChatScript

mutual

/-- A statement, the last statement of its last branch, the last statement of the last branch of
that one, and so on. -/
def Statement.rightChain : Statement → List Statement
  | .set name value line => [.set name value line]
  | .send value line => [.send value line]
  | .conditional condition thenBranch none line =>
    .conditional condition thenBranch none line :: blockRightChain thenBranch
  | .conditional condition thenBranch (some elseBranch) line =>
    .conditional condition thenBranch (some elseBranch) line :: blockRightChain elseBranch

/-- The chain of the last statement of a block. -/
def blockRightChain : List Statement → List Statement
  | [] => []
  | [last] => last.rightChain
  | _ :: next :: statements => blockRightChain (next :: statements)

end

/-- The chain of the last statement of a clause. -/
def Clause.rightChain : Clause → List Statement
  | .statement first => first.rightChain
  | .block all => blockRightChain all

/-- The conditionals on the chain of the last statement of a program, from the outside to the
inside. -/
def Program.rightConditionals (program : Program) : List Statement :=
  (blockRightChain program.statements).filter Statement.isConditional

/-- `LeftOpen levels clause lines tokens` says that the tokens make up the clause except that the
`when` blocks on the given lines, each inside of the one before, are not closed. -/
inductive LeftOpen : Nat → Clause → List Nat → List Token → Prop where
  | inThen {levels keyword opening condition thenBranch lines tokens thens} :
      keyword.kind = .keyword .when → FormsValue tokens condition →
      opening.kind = .keyword .then → LeftOpen levels (.block thenBranch) lines thens →
      LeftOpen (levels + 1) (.statement (.conditional condition thenBranch none keyword.line))
        (keyword.line :: lines) (keyword :: (tokens ++ opening :: thens))
  | inElse {levels keyword opening middle condition thenBranch elseBranch lines tokens thens
        elses} :
      keyword.kind = .keyword .when → FormsValue tokens condition →
      opening.kind = .keyword .then → Forms levels (.block thenBranch) thens →
      middle.kind = .keyword .else → LeftOpen levels (.block elseBranch) lines elses →
      LeftOpen (levels + 1)
        (.statement (.conditional condition thenBranch (some elseBranch) keyword.line))
        (keyword.line :: lines) (keyword :: (tokens ++ opening :: (thens ++ middle :: elses)))
  | closed {levels statements tokens} : Forms levels (.block statements) tokens →
      LeftOpen levels (.block statements) [] tokens
  | last {levels statement lines tokens} : LeftOpen levels (.statement statement) lines tokens →
      LeftOpen levels (.block [statement]) lines tokens
  | newline {levels separator statements lines tokens} : separator.kind = .newline →
      LeftOpen levels (.block statements) lines tokens →
      LeftOpen levels (.block statements) lines (separator :: tokens)
  | next {levels statement statements lines tokens others} :
      Forms levels (.statement statement) tokens →
      LeftOpen levels (.block statements) lines others →
      LeftOpen levels (.block (statement :: statements)) lines (tokens ++ others)

/-! ## Taking closing tokens away -/

/-- Whether a token is a newline or an `end`. -/
def Token.closes (token : Token) : Bool :=
  token.kind = .newline || token.kind = .keyword .end

section Closing

variable {levels : Nat} {tokens front back : List Token}

/-- No keyword but `end` closes anything. -/
theorem Token.closes_eq_false {token : Token} {word : Keyword} (kind : token.kind = .keyword word)
    (other : word ≠ .end) : token.closes = false := by
  simp [Token.closes, kind, other]

/-- Newlines and `end` tokens alone make up no statement. -/
theorem Forms.eq_nil_of_closes {statements : List Statement}
    (forms : Forms levels (.block statements) tokens) (closing : ∀ token ∈ tokens, token.closes) :
    statements = [] ∧ tokens.countP (Token.spells .end) = 0 := by
  have none : tokens.filterMap Token.heading? = [] := by
    rw [List.filterMap_eq_nil_iff]
    intro token member
    have closes := closing token member
    rw [Token.closes, Bool.or_eq_true, decide_eq_true_eq, decide_eq_true_eq] at closes
    rcases closes with kind | kind <;> simp [Token.heading?, kind, Keyword.startsStatement]
  have nothing : blockStatements statements = [] :=
    List.map_eq_nil_iff.mp (forms.headings.symm.trans none)
  refine ⟨?_, ?_⟩
  · cases statements with
    | nil => rfl
    | cons first others =>
        rw [blockStatements, List.append_eq_nil_iff] at nothing
        exact absurd first.self_mem_substatements (by simp [nothing.1])
  · rw [forms.count_keyword, Clause.statements, nothing, List.countP_nil]

/-- Closing tokens at the back of a list do not reach over a token that is none of them. -/
theorem exists_front_of_closes (before : List Token) {after : List Token} {token : Token}
    (whole : before ++ token :: after = front ++ back) (other : token.closes = false)
    (closing : ∀ token ∈ back, token.closes) :
    ∃ middle, front = before ++ token :: middle ∧ after = middle ++ back := by
  rcases List.append_eq_append_iff.mp whole with ⟨rest, rfl, same⟩ | ⟨rest, rfl, rfl⟩
  · cases rest with
    | nil =>
        rw [List.nil_append] at same
        have closes := closing token (same ▸ List.mem_cons_self ..)
        rw [other] at closes
        cases closes
    | cons first rest =>
        obtain ⟨rfl, rfl⟩ := List.cons.inj same
        exact ⟨rest, rfl, rfl⟩
  · have closes := closing token (by simp)
    rw [other] at closes
    cases closes

/-- A back that is not empty takes the last token of a list away. -/
theorem exists_fewer_of_append {before : List Token} {token : Token}
    (whole : before ++ [token] = front ++ back) (some : back ≠ []) :
    ∃ fewer, back = fewer ++ [token] ∧ before = front ++ fewer := by
  obtain ⟨fewer, last, rfl⟩ := List.eq_nil_or_concat back |>.resolve_left some
  rw [List.concat_eq_append, ← List.append_assoc] at whole
  obtain ⟨rfl, same⟩ := List.append_inj' whole rfl
  cases same
  exact ⟨fewer, List.concat_eq_append .., rfl⟩

/-- An expression does not end in a closing token. -/
theorem FormsValue.eq_nil_of_closes {value : Expr} (forms : FormsValue tokens value)
    (before : List Token) (whole : before ++ tokens = front ++ back)
    (closing : ∀ token ∈ back, token.closes) : back = [] := by
  rcases List.eq_nil_or_concat back with rfl | ⟨others, final, rfl⟩
  · rfl
  · obtain ⟨first, behind, rfl, -⟩ := forms.starts
    obtain ⟨inner, last, same⟩ : ∃ inner last, first :: behind = inner ++ [last] :=
      ⟨_, _, (List.dropLast_append_getLast (List.cons_ne_nil first behind)).symm⟩
    rw [List.concat_eq_append, same, ← List.append_assoc, ← List.append_assoc] at whole
    obtain rfl : last = final := by simpa using (List.append_inj' whole rfl).2
    have isInner := forms.isInner last (by simp [same])
    have closes := closing last (by simp)
    rw [Token.closes, Bool.or_eq_true, decide_eq_true_eq, decide_eq_true_eq] at closes
    rcases closes with kind | kind <;> simp [kind, TokenKind.isInner] at isInner

/-- Without the closing tokens at their back, the tokens of a clause leave as many blocks open as
there were `end` tokens. A statement is only then left open when one of its tokens is taken away. -/
theorem exists_leftOpen {clause : Clause} (forms : Forms levels clause tokens)
    (whole : tokens = front ++ back) (closing : ∀ token ∈ back, token.closes)
    (some : ∀ statement, clause = .statement statement → back ≠ []) :
    ∃ lines, lines.length = back.countP (Token.spells .end) ∧
      LeftOpen levels clause lines front := by
  induction forms generalizing front back with
  | set _ _ value =>
      exact absurd (value.eq_nil_of_closes [_, _] whole closing) (some _ rfl)
  | assign _ _ _ value =>
      exact absurd (value.eq_nil_of_closes [_, _, _] whole closing) (some _ rfl)
  | send _ value =>
      exact absurd (value.eq_nil_of_closes [_] whole closing) (some _ rfl)
  | conditional isWhen condition isThen _ isEnd ih =>
      obtain ⟨inner, rfl, rest⟩ := exists_front_of_closes (_ :: _) whole
        (Token.closes_eq_false isThen (by decide)) closing
      obtain ⟨fewer, rfl, same⟩ := exists_fewer_of_append rest (some _ rfl)
      rw [List.forall_mem_append] at closing
      obtain ⟨lines, count, leftOpen⟩ := ih same closing.1 nofun
      refine ⟨_ :: lines, ?_, .inThen isWhen condition isThen leftOpen⟩
      simp [count, Token.spells, isEnd]
  | alternative isWhen condition isThen thens isElse _ isEnd _ ih =>
      rw [← List.cons_append, List.append_cons, ← List.append_assoc] at whole
      obtain ⟨inner, rfl, rest⟩ := exists_front_of_closes _ whole
        (Token.closes_eq_false isElse (by decide)) closing
      obtain ⟨fewer, rfl, same⟩ := exists_fewer_of_append rest (some _ rfl)
      rw [List.forall_mem_append] at closing
      obtain ⟨lines, count, leftOpen⟩ := ih same closing.1 nofun
      have outside := LeftOpen.inElse isWhen condition isThen thens isElse leftOpen
      refine ⟨_, ?_, by simpa using outside⟩
      simp [count, Token.spells, isEnd]
  | empty =>
      obtain ⟨rfl, rfl⟩ := List.append_eq_nil_iff.mp whole.symm
      exact ⟨[], rfl, .closed .empty⟩
  | newline isNewline block ih =>
      cases front with
      | nil =>
          rw [List.nil_append] at whole
          subst whole
          obtain ⟨rfl, count⟩ := (Forms.newline isNewline block).eq_nil_of_closes closing
          exact ⟨[], count.symm, .closed .empty⟩
      | cons token front =>
          obtain ⟨rfl, rfl⟩ := List.cons.inj whole
          obtain ⟨lines, count, leftOpen⟩ := ih rfl closing nofun
          exact ⟨lines, count, .newline isNewline leftOpen⟩
  | @next _ statement statements tokens others first block ihFirst ihBlock =>
      -- The back begins inside of the first statement, or else behind it.
      rcases List.append_eq_append_iff.mp whole with ⟨rest, rfl, rfl⟩ | ⟨rest, rfl, rfl⟩
      · obtain ⟨lines, count, leftOpen⟩ := ihBlock rfl closing nofun
        exact ⟨lines, count, .next first leftOpen⟩
      · rw [List.forall_mem_append] at closing
        obtain ⟨rfl, none⟩ := block.eq_nil_of_closes closing.2
        by_cases within : rest = []
        · subst within
          refine ⟨[], none.symm, ?_⟩
          rw [List.append_nil] at first
          simpa using LeftOpen.closed (.next first .empty)
        · obtain ⟨lines, count, leftOpen⟩ := ihFirst rfl closing.1 fun _ _ => within
          refine ⟨lines, ?_, .last leftOpen⟩
          rw [List.countP_append, none, count, Nat.add_zero]

end Closing

/-! ## The blocks that are open -/

namespace LeftOpen

variable {limit levels : Nat} {clause : Clause} {statements : List Statement} {lines : List Nat}
  {tokens : List Token}

/-- The blocks that are left open are the outermost conditionals on the chain of the last
statement. -/
theorem lines_prefix (leftOpen : LeftOpen levels clause lines tokens) :
    lines <+: (clause.rightChain.filter Statement.isConditional).map Statement.line := by
  induction leftOpen with
  | inThen _ _ _ _ ih | inElse _ _ _ _ _ _ ih => exact List.cons_prefix_cons.mpr ⟨rfl, ih⟩
  | closed => exact List.nil_prefix
  | last _ ih => exact ih
  | newline _ _ ih => exact ih
  | @next _ _ statements _ _ _ _ _ ih =>
      cases statements with
      | nil =>
          obtain rfl := List.prefix_nil.mp ih
          exact List.nil_prefix
      | cons => exact ih

/-- A statement that is left open starts with `when`. -/
theorem exists_keyword {statement : Statement}
    (leftOpen : LeftOpen levels (.statement statement) lines tokens) :
    ∃ keyword others, tokens = keyword :: others ∧ keyword.kind = .keyword .when := by
  cases leftOpen with
  | inThen isWhen | inElse isWhen => exact ⟨_, _, rfl, isWhen⟩

/-- What is left open is not changed by the newlines at its front. -/
theorem block_skipNewlines (leftOpen : LeftOpen levels (.block statements) lines tokens) :
    LeftOpen levels (.block statements) lines (skipNewlines tokens) := by
  generalize same : Clause.block statements = clause at leftOpen
  induction leftOpen with
  | inThen | inElse => cases same
  | closed forms =>
      cases same
      exact .closed forms.block_skipNewlines
  | last leftOpen =>
      cases same
      obtain ⟨keyword, others, rfl, kind⟩ := leftOpen.exists_keyword
      have visible : skipNewlines (keyword :: others) = keyword :: others := by
        simp [skipNewlines, kind]
      rw [visible]
      exact .last leftOpen
  | newline isNewline _ ih => simpa [skipNewlines, isNewline] using ih same
  | @next _ _ _ _ _ others first block =>
      cases same
      obtain ⟨keyword, behind, word, rfl, kind, -, -⟩ := acceptedClause_of_forms 0 first
      have visible : skipNewlines (keyword :: behind ++ others) = keyword :: behind ++ others := by
        simp [skipNewlines, kind]
      rw [visible]
      exact .next first block

end LeftOpen

/-! ## What the parser makes of them -/

/-- What a parser of statements returns at the end of the tokens: the statements, or a complaint
about the last one of the lines on which blocks were left open. -/
def readOpen {α : Type} (result : α) (lines : List Nat) : Except Fault (α × List Token) :=
  match lines.getLast? with
  | none => .ok (result, [])
  | some line => .error ⟨.line line, .endMissing⟩

/-- What it means for the parser to find out that the blocks on the given lines are not closed,
where `levels` blocks may still be opened. -/
def Unread (limit levels : Nat) : Clause → List Nat → List Token → Prop
  | .statement result, lines, tokens => lines ≠ [] ∧ ∃ keyword others, tokens = keyword :: others ∧
      keyword.kind = .keyword .when ∧
      statement (whenAt limit levels) keyword others = readOpen result lines
  | .block statements, lines, tokens => ∀ stops (bound : List Token),
      (∀ token, stops token → endsBranch token) → tokens.length ≤ bound.length →
      endsStatement tokens ∧
        statementsUpTo (whenAt limit levels) stops bound tokens = readOpen statements lines

/-- Where the tokens end behind what is left open, the block around it is left open too. -/
theorem readOpen_bind {α β : Type} {result : α} {other : β} {line : Nat} {lines : List Nat}
    {next : α × List Token → Except Fault (β × List Token)}
    (ends : next (result, []) = .error ⟨.line line, .endMissing⟩) :
    readOpen result lines >>= next = readOpen other (line :: lines) := by
  cases lines with
  | nil => exact ends
  | cons first lines =>
      rw [readOpen, readOpen, List.getLast?_cons_cons]
      cases last : (first :: lines).getLast? with
      | none => simp at last
      | some line => rfl

namespace Unread

variable {limit levels : Nat} {tokens thens elses : List Token} {lines : List Nat}
  {keyword opening middle : Token} {condition : Expr} {thenBranch elseBranch : List Statement}

/-- A branch that is left open is read up to the end of the tokens. -/
theorem branch (block : Unread limit levels (.block thenBranch) lines tokens) :
    statementsUpTo (whenAt limit levels) endsBranch tokens tokens = readOpen thenBranch lines :=
  (block endsBranch tokens (fun _ => id) (Nat.le_refl _)).2

/-- The parser misses the `end` of a block that is left open in its first branch, after those
inside. -/
theorem inThen (isWhen : keyword.kind = .keyword .when) (forms : FormsValue tokens condition)
    (isThen : opening.kind = .keyword .then)
    (block : Unread limit levels (.block thenBranch) lines thens) :
    Unread limit (levels + 1) (.statement (.conditional condition thenBranch none keyword.line))
      (keyword.line :: lines) (keyword :: (tokens ++ opening :: thens)) := by
  refine ⟨List.cons_ne_nil _ _, keyword, _, rfl, isWhen, ?_⟩
  have value := statementValue_of_forms forms
    (.cons (by simp [isThen]) (by simp [isThen]) : EndsExpression (opening :: thens))
  obtain ⟨kind, _, _⟩ := opening
  cases isThen
  simp only [statement, isWhen, whenAt, whenStatement, forms.not_endsStatement, Bool.false_eq_true,
    ↓reduceIte, value, ok_bind, block.branch]
  exact readOpen_bind rfl

/-- The parser misses the `end` of a block that is left open in its `else` branch, after those
inside. -/
theorem inElse (isWhen : keyword.kind = .keyword .when) (forms : FormsValue tokens condition)
    (isThen : opening.kind = .keyword .then) (first : Forms levels (.block thenBranch) thens)
    (isElse : middle.kind = .keyword .else)
    (block : Unread limit levels (.block elseBranch) lines elses) :
    Unread limit (levels + 1)
      (.statement (.conditional condition thenBranch (some elseBranch) keyword.line))
      (keyword.line :: lines) (keyword :: (tokens ++ opening :: (thens ++ middle :: elses))) := by
  refine ⟨List.cons_ne_nil _ _, keyword, _, rfl, isWhen, ?_⟩
  have value := statementValue_of_forms forms
    (.cons (by simp [isThen]) (by simp [isThen]) :
      EndsExpression (opening :: (thens ++ middle :: elses)))
  have thenRead := (acceptedClause_of_forms limit first).branch
    (show endsBranch middle by simp [endsBranch, isElse]) elses
  obtain ⟨kind, _, _⟩ := opening
  cases isThen
  obtain ⟨kind, _, _⟩ := middle
  cases isElse
  simp only [statement, isWhen, whenAt, whenStatement, forms.not_endsStatement, Bool.false_eq_true,
    ↓reduceIte, value, ok_bind, thenRead, block.branch]
  exact readOpen_bind rfl

/-- A block that is closed is read in the end. -/
theorem closed {statements : List Statement} (forms : Forms levels (.block statements) tokens) :
    Unread limit levels (.block statements) [] tokens := by
  intro stops bound ends enough
  have read := acceptedClause_of_forms limit forms stops [] bound ends nofun
  rw [List.append_nil] at read
  exact read enough

/-- A block with a single statement that is left open is left open itself. -/
theorem last {result : Statement} (first : Unread limit levels (.statement result) lines tokens) :
    Unread limit levels (.block [result]) lines tokens := by
  intro stops bound ends enough
  obtain ⟨some, keyword, others, rfl, kind, read⟩ := first
  refine ⟨by simp [endsStatement, kind], ?_⟩
  cases bound with
  | nil => simp at enough
  | cons _ bound =>
      rw [statementsUpTo_keyword kind rfl ends, read, readOpen, readOpen]
      cases last : lines.getLast? with
      | none => exact absurd (List.getLast?_eq_none_iff.mp last) some
      | some line => rfl

theorem newline {separator : Token} {statements : List Statement}
    (isNewline : separator.kind = .newline)
    (block : Unread limit levels (.block statements) lines tokens) :
    Unread limit levels (.block statements) lines (separator :: tokens) := by
  intro stops bound ends enough
  refine ⟨by simp [endsStatement, isNewline], ?_⟩
  cases bound with
  | nil => simp at enough
  | cons token bound =>
      have read := (block stops (token :: bound) ends (by
        simp only [List.length_cons] at enough ⊢
        omega)).2
      have skips : skipNewlines (separator :: tokens) = skipNewlines tokens := by
        simp [skipNewlines, isNewline]
      rw [statementsUpTo, skips]
      exact read

theorem next {result : Statement} {statements : List Statement} {others : List Token}
    (first : AcceptedClause limit levels (.statement result) tokens)
    (block : Unread limit levels (.block statements) lines others) :
    Unread limit levels (.block (result :: statements)) lines (tokens ++ others) := by
  intro stops bound ends enough
  obtain ⟨keyword, behind, word, rfl, kind, starts, read⟩ := first
  refine ⟨by simp [endsStatement, kind], ?_⟩
  cases bound with
  | nil => simp at enough
  | cons _ bound =>
      obtain ⟨ended, readOthers⟩ := block stops bound ends (by
        simp only [List.cons_append, List.length_cons, List.length_append] at enough
        omega)
      rw [List.cons_append, statementsUpTo_keyword kind starts ends, read others ended, ok_bind,
        if_pos ended, readOthers, readOpen, readOpen]
      cases lines.getLast? <;> rfl

end Unread

/-- The parser finds out what is not closed. -/
theorem LeftOpen.unread (limit : Nat) {levels : Nat} {clause : Clause} {lines : List Nat}
    {tokens : List Token} (leftOpen : LeftOpen levels clause lines tokens) :
    Unread limit levels clause lines tokens := by
  induction leftOpen with
  | inThen isWhen condition isThen _ block => exact .inThen isWhen condition isThen block
  | inElse isWhen condition isThen thens isElse _ block =>
      exact .inElse isWhen condition isThen thens isElse block
  | closed forms => exact .closed forms
  | last _ first => exact first.last
  | newline isNewline _ block => exact block.newline isNewline
  | next first _ block => exact .next (acceptedClause_of_forms limit first) block

/-- Tokens that make up a program up to a number of `end` tokens at their back are refused without
these, on the line of the innermost block that they close. -/
theorem programOfTokens_of_closes {limit : Nat} {front back : List Token} {program : Program}
    (forms : FormsProgram limit (front ++ back) program) (closing : ∀ token ∈ back, token.closes)
    (some : back.countP (Token.spells .end) ≠ 0) :
    ∃ statement, program.rightConditionals[back.countP (Token.spells .end) - 1]? = .some statement ∧
      programOfTokens limit front = .error ⟨.line statement.line, .endMissing⟩ := by
  obtain ⟨lines, count, leftOpen⟩ := exists_leftOpen forms.2 rfl closing nofun
  have unclosed : lines ≠ [] := by
    rintro rfl
    exact some count.symm
  obtain ⟨line, innermost⟩ : ∃ line, lines.getLast? = .some line :=
    ⟨_, List.getLast?_eq_some_getLast unclosed⟩
  have isLast : lines[back.countP (Token.spells .end) - 1]? = .some line := by
    rw [← count, ← List.getLast?_eq_getElem?, innermost]
  obtain ⟨inside, -⟩ := List.getElem?_eq_some_iff.mp isLast
  obtain ⟨inner, same⟩ := leftOpen.lines_prefix
  have found : (program.rightConditionals.map Statement.line)[
      back.countP (Token.spells .end) - 1]? = .some line := by
    rw [Program.rightConditionals, ← Clause.rightChain, ← same, List.getElem?_append_left inside,
      isLast]
  obtain ⟨statement, isInner, rfl⟩ := Option.map_eq_some_iff.mp (List.getElem?_map ▸ found)
  refine ⟨statement, isInner, ?_⟩
  have read := (leftOpen.block_skipNewlines.unread limit (fun _ => false) (skipNewlines front)
    (fun _ stops => absurd stops Bool.false_ne_true) (Nat.le_refl _)).2
  rw [readOpen, innermost] at read
  unfold programOfTokens
  split
  · rename_i empty
    rw [empty] at read
    cases read
  · simp only [read]
    rfl

/-! ## Lines of `end` -/

theorem kindsOf_end {rest : List Char} (ends : EndsWord rest) :
    kindsOf ("end".toList ++ rest) = .keyword .end :: kindsOf rest :=
  kindsOf_word rfl (by decide) (by decide) ends

/-- A line `end`, with or without the carriage return of a line break, is one token. -/
theorem kindsOf_of_dropReturn {line : List Char} (same : Text.dropReturn line = "end".toList) :
    kindsOf line = [.keyword .end] := by
  unfold Text.dropReturn at same
  split at same
  · rename_i ends
    obtain ⟨front, rfl⟩ := List.getLast?_eq_some_iff.mp ends
    rw [List.dropLast_concat] at same
    rw [same, kindsOf_end (endsWord_cons '\r' (by decide) []), kindsOf_gap rfl, kindsOf_nil]
  · rw [same, ← List.append_nil "end".toList, kindsOf_end endsWord_nil, kindsOf_nil]

/-- A text whose lines are `end` has as many `end` tokens, and newlines between them. -/
theorem kindsOf_endLines {count : Nat} {cs : List Char}
    (lines : Text.lines cs = List.replicate count "end".toList) :
    (∀ kind ∈ kindsOf cs, kind = .newline ∨ kind = .keyword .end) ∧
      (kindsOf cs).count (.keyword .end) = count := by
  induction cs using line_induction generalizing count with
  | last line oneLine =>
      rw [Text.lines_of_no_newline oneLine] at lines
      cases line with
      | nil =>
          obtain rfl : count = 0 := by simpa using lines.symm
          simp
      | cons c cs =>
          obtain ⟨rfl, same⟩ : 1 = count ∧ _ := List.eq_replicate_iff.mp lines
          have kinds : kindsOf "end".toList = [.keyword .end] := kindsOf_of_dropReturn rfl
          rw [same (c :: cs) (List.mem_singleton_self _), kinds]
          simp
  | next line rest oneLine ih =>
      rw [Text.lines_append_newline oneLine] at lines
      cases count with
      | zero => cases lines
      | succ count =>
          obtain ⟨same, further⟩ := List.cons.inj lines
          obtain ⟨kinds, counted⟩ := ih further
          rw [kindsOf_append_newline, kindsOf_of_dropReturn same]
          simpa [counted] using kinds

/-- Tokens of a text whose lines are `end` close blocks, on whatever lines they stand. -/
theorem closes_of_endLines {count : Nat} {tokens : List Token} {cs : List Char}
    (kinds : tokens.map Token.kind = kindsOf cs)
    (lines : Text.lines cs = List.replicate count "end".toList) :
    (∀ token ∈ tokens, token.closes) ∧ tokens.countP (Token.spells .end) = count := by
  obtain ⟨closing, counted⟩ := kindsOf_endLines lines
  rw [← kinds] at closing counted
  refine ⟨fun token member => ?_, ?_⟩
  · simpa [Token.closes] using closing token.kind (List.mem_map_of_mem member)
  · rw [← counted, List.count_eq_countP, List.countP_map]
    exact List.countP_congr fun token _ => by simp [Token.spells]

namespace Program

variable {limit count : Nat} {source tail : String} {program : Program}

/-- A missing `end` is reported with the line of its `when`. -/
theorem parse_of_endMissing {line : Nat}
    (failed : programOfTokens limit (tokenize source) = .error ⟨.line line, .endMissing⟩) :
    parse limit source = .error (.onLine source line "'when' has no matching 'end'") := by
  simp only [parse, failed]
  rfl

/-- **A source that ends in open blocks is refused for the innermost of them.** If a source is
accepted with a number of lines `end` behind it, then without them it is refused on the line of the
conditional that the first of these lines closes, whether it ends in a newline or not. Counted from
the outside, that is the conditional of the same number on the way to the last statement. -/
theorem parse_unclosed (some : 1 ≤ count)
    (ends : Text.lines tail.toList = List.replicate count "end".toList)
    (accepted : parse limit (source ++ "\n" ++ tail) = .ok program) :
    ∃ statement, program.rightConditionals[count - 1]? = .some statement ∧
      ∀ unclosed ∈ [source, source ++ "\n"], parse limit unclosed =
        .error (.onLine unclosed statement.line "'when' has no matching 'end'") := by
  have forms := parse_eq_ok_iff_forms.mp accepted
  rw [tokenize_append_newline] at forms
  have ended := tokenize_append_newline source ""
  have none : tokenize "" = [] := tokensFrom.eq_1 1
  rw [String.append_empty, none, List.map_nil] at ended
  generalize 1 + source.toList.count '\n' = line at forms ended
  have kinds : ((tokenize tail).map (Token.shift line)).map Token.kind = kindsOf tail.toList := by
    rw [List.map_map]
    rfl
  obtain ⟨closing, counted⟩ := closes_of_endLines kinds ends
  have positive : count ≠ 0 := by omega
  have newline : Token.spells .end ⟨.newline, "\n", line⟩ = false := rfl
  obtain ⟨statement, isInner, failed⟩ := programOfTokens_of_closes forms
    (List.forall_mem_cons.mpr ⟨rfl, closing⟩) (by simpa [newline, counted] using positive)
  rw [List.append_cons] at forms
  obtain ⟨other, isOther, failedAgain⟩ := programOfTokens_of_closes forms closing
    (by simpa [counted] using positive)
  rw [List.countP_cons_of_neg (by simp [newline]), counted] at isInner
  rw [counted, isInner] at isOther
  cases isOther
  rw [← ended] at failedAgain
  refine ⟨statement, isInner, List.forall_mem_cons.mpr ⟨parse_of_endMissing failed, ?_⟩⟩
  exact List.forall_mem_singleton.mpr (parse_of_endMissing failedAgain)

/-- A block in an `else` branch is left open behind one that is closed. -/
def halfClosed : String :=
  "send 1\nwhen 2 then\n  send 3\nelse\n  when 4 then else end\n  when 5 then # end"

/-- The canonical text of the same blocks, all of them closed. -/
def allClosed : String :=
  "send 1\nwhen 2 then\n  send 3\nelse\n  when 4 then\n  else\n  end\n" ++
    "  when 5 then\n  end\nend\n"

/-- Of two open blocks the inner one is missed, and a block next to it that is closed does not
count. -/
theorem parse_unclosed_halfClosed :
    ∃ program statement, parse 2 (halfClosed ++ "\n" ++ "end\r\nend\n") = .ok program ∧
      program.render = allClosed ∧ program.rightConditionals[1]? = .some statement ∧
      statement.line = 6 ∧
      parse 2 halfClosed = .error ⟨6, "  when 5 then # end", "'when' has no matching 'end'"⟩ := by
  have accepted : (parse 2 (halfClosed ++ "\n" ++ "end\r\nend\n")).toOption.map render =
      .some allClosed := by
    decide +kernel
  have lines : (parse 2 (halfClosed ++ "\n" ++ "end\r\nend\n")).toOption.map
      (fun program => program.rightConditionals.map Statement.line) = .some [2, 6] := by
    decide +kernel
  have ends : Text.lines "end\r\nend\n".toList = List.replicate 2 "end".toList := by
    decide +kernel
  obtain ⟨program, parsed, printed⟩ := exists_parse_of_render accepted
  obtain ⟨statement, isInner, failed⟩ := parse_unclosed (by decide) ends parsed
  rw [parsed] at lines
  have isLine : statement.line = 6 := by
    have found := congrArg (·[1]?) (Option.some.inj lines)
    simpa [isInner] using found
  have refused := failed halfClosed (List.mem_cons_self ..)
  rw [isLine] at refused
  have text : ParseError.lineOf halfClosed 6 = "  when 5 then # end" := by decide +kernel
  rw [ParseError.onLine, text] at refused
  exact ⟨program, statement, parsed, printed, isInner, isLine, refused⟩

end Program

end ChatScript
