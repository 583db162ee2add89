import ChatScript.Proofs.Layout
import ChatScript.Proofs.NormalForm

/-! # Scripts one after the other

Two scripts with a newline between them are one script: the statements of the first and then those
of the second, further down by the lines of the first (`Program.parse_append_newline`). Nothing of
the first script is carried over into the second. The newline ends every token and every comment,
so the tokens of the second script only move to other lines (`tokensFrom_append_newline`,
`tokensFrom_add`); what they make up moves with them (`Forms.shift`) and is otherwise the same
(`shift_unlined_line`), and blocks can be joined (`Forms.append`).
-/

namespace ChatScript

mutual

/-- A statement that many lines further down, with everything it contains. -/
def Statement.shift (lines : Nat) : Statement → Statement
  | .set name value line => .set name value (line + lines)
  | .send value line => .send value (line + lines)
  | .conditional condition thenBranch none line =>
    .conditional condition (blockShift lines thenBranch) none (line + lines)
  | .conditional condition thenBranch (some elseBranch) line =>
    .conditional condition (blockShift lines thenBranch) (some (blockShift lines elseBranch))
      (line + lines)

/-- The statements of a block that many lines further down. -/
def blockShift (lines : Nat) : List Statement → List Statement
  | [] => []
  | statement :: statements => statement.shift lines :: blockShift lines statements

end

/-- A clause that many lines further down. -/
def Clause.shift (lines : Nat) : Clause → Clause
  | .statement first => .statement (first.shift lines)
  | .block all => .block (blockShift lines all)

/-- Statements that are shifted are the same but for their lines, all of which are greater by the
same number. -/
theorem shift_unlined_line (lines : Nat) :
    (∀ first : Statement, (first.shift lines).unlined = first.unlined ∧
      (first.shift lines).substatements.map Statement.line =
        (first.substatements.map Statement.line).map (· + lines)) ∧
    ∀ all : List Statement, blockUnlined (blockShift lines all) = blockUnlined all ∧
      (blockStatements (blockShift lines all)).map Statement.line =
        ((blockStatements all).map Statement.line).map (· + lines) := by
  apply Statement.blockInduction
  case set => exact fun _ _ _ => ⟨rfl, rfl⟩
  case send => exact fun _ _ => ⟨rfl, rfl⟩
  case conditional =>
    rintro condition thenBranch line ⟨unlined, moved⟩
    rw [Statement.shift, Statement.unlined, Statement.unlined, unlined]
    refine ⟨rfl, ?_⟩
    rw [Statement.substatements, Statement.substatements, List.map_cons, moved]
    rfl
  case alternative =>
    rintro condition thenBranch elseBranch line ⟨unlined, moved⟩ ⟨unlinedElse, movedElse⟩
    rw [Statement.shift, Statement.unlined, Statement.unlined, unlined, unlinedElse]
    refine ⟨rfl, ?_⟩
    rw [Statement.substatements, Statement.substatements, List.map_cons, List.map_append, moved,
      movedElse, List.map_cons, List.map_append, List.map_cons, List.map_append]
    rfl
  case empty => exact ⟨rfl, rfl⟩
  case next =>
    rintro statement statements ⟨unlined, moved⟩ ⟨unlinedRest, movedRest⟩
    rw [blockShift, blockUnlined, blockUnlined, unlined, unlinedRest]
    refine ⟨rfl, ?_⟩
    rw [blockStatements, blockStatements, List.map_append, moved, movedRest, List.map_append,
      List.map_append]

theorem Token.kind_shift {token : Token} {kind : TokenKind} {lines : Nat}
    (isKind : token.kind = kind) : (token.shift lines).kind = kind :=
  isKind

/-- The tokens of an expression may be moved further down. -/
theorem FormsValue.shift {tokens : List Token} {value : Expr} (forms : FormsValue tokens value)
    (lines : Nat) : FormsValue (tokens.map (Token.shift lines)) value := by
  obtain ⟨size, small, derivation⟩ := forms
  refine ⟨size, small, ?_⟩
  rw [List.map_map]
  exact derivation

/-- Tokens make up the same clause on other lines. -/
theorem Forms.shift {levels : Nat} {clause : Clause} {tokens : List Token}
    (forms : Forms levels clause tokens) (lines : Nat) :
    Forms levels (clause.shift lines) (tokens.map (Token.shift lines)) := by
  induction forms with
  | set isSet isName value =>
      exact .set (Token.kind_shift isSet) (Token.kind_shift isName) (value.shift lines)
  | assign isSet isName isAssign value =>
      exact .assign (Token.kind_shift isSet) (Token.kind_shift isName)
        (Token.kind_shift isAssign) (value.shift lines)
  | send isSend value => exact .send (Token.kind_shift isSend) (value.shift lines)
  | conditional isWhen condition isThen _ isEnd thens =>
      simp only [List.map_cons, List.map_append, List.map_nil]
      exact .conditional (Token.kind_shift isWhen) (condition.shift lines)
        (Token.kind_shift isThen) thens (Token.kind_shift isEnd)
  | alternative isWhen condition isThen _ isElse _ isEnd thens elses =>
      simp only [List.map_cons, List.map_append, List.map_nil]
      exact .alternative (Token.kind_shift isWhen) (condition.shift lines)
        (Token.kind_shift isThen) thens (Token.kind_shift isElse) elses (Token.kind_shift isEnd)
  | empty => exact .empty
  | newline isNewline _ ih => exact .newline (Token.kind_shift isNewline) ih
  | next _ _ first others =>
      rw [List.map_append]
      exact .next first others

/-- The tokens of two blocks make up one block. -/
theorem Forms.append {levels : Nat} {front back : List Statement} {tokens others : List Token}
    (first : Forms levels (.block front) tokens) (second : Forms levels (.block back) others) :
    Forms levels (.block (front ++ back)) (tokens ++ others) := by
  generalize same : Clause.block front = clause at first
  induction first generalizing front with
  | empty =>
      cases same
      exact second
  | newline isNewline _ ih => exact .newline isNewline (ih second same)
  | next first _ _ ih =>
      cases same
      rw [List.append_assoc]
      exact .next first (ih second rfl)
  | _ => cases same

/-- The tokens of the second of two sources only move to other lines. -/
theorem tokenize_append_newline (first second : String) :
    tokenize (first ++ "\n" ++ second) =
      tokenize first ++ ⟨.newline, "\n", 1 + first.toList.count '\n'⟩ ::
        (tokenize second).map (Token.shift (1 + first.toList.count '\n')) := by
  have whole : (first ++ "\n" ++ second).toList = first.toList ++ '\n' :: second.toList := by
    simp
  rw [tokenize, whole, tokensFrom_append_newline, Nat.add_comm _ 1, tokensFrom_add, tokenize,
    tokenize]

namespace Program

variable {limit : Nat} {first second : String} {front back : Program}

/-- **Parsing is compositional.** Two accepted sources with a newline between them are accepted,
as the statements of the first and those of the second, every line of which is greater by the number
of lines that come before. -/
theorem parse_append_newline (accepted : parse limit first = .ok front)
    (follows : parse limit second = .ok back) :
    parse limit (first ++ "\n" ++ second) =
      .ok ⟨front.statements ++ blockShift (1 + first.toList.count '\n') back.statements⟩ := by
  obtain ⟨some, forms⟩ := parse_eq_ok_iff_forms.mp accepted
  obtain ⟨-, formsBack⟩ := parse_eq_ok_iff_forms.mp follows
  refine parse_eq_ok_iff_forms.mpr ⟨List.append_ne_nil_of_left_ne_nil some _, ?_⟩
  rw [tokenize_append_newline]
  exact forms.append (.newline rfl (formsBack.shift _))

/-- The first source ends in a comment, and both open a block. -/
theorem parse_append_newline_commented :
    ∃ front back,
      parse 1 "when 1 then\nsend 'a' end # one" = .ok front ∧
        parse 1 "\nwhen 2 then else set x 3 end" = .ok back ∧
        front.render = "when 1 then\n  send \"a\"\nend\n" ∧
        back.render = "when 2 then\nelse\n  set x 3\nend\n" ∧
        parse 1 ("when 1 then\nsend 'a' end # one" ++ "\n" ++ "\nwhen 2 then else set x 3 end") =
          .ok ⟨front.statements ++ blockShift 2 back.statements⟩ ∧
        (blockStatements back.statements).map Statement.line = [2, 2] ∧
        (blockStatements (blockShift 2 back.statements)).map Statement.line = [4, 4] := by
  have accepted : (parse 1 "when 1 then\nsend 'a' end # one").toOption.map render =
      some "when 1 then\n  send \"a\"\nend\n" := by
    decide +kernel
  have follows : (parse 1 "\nwhen 2 then else set x 3 end").toOption.map render =
      some "when 2 then\nelse\n  set x 3\nend\n" := by
    decide +kernel
  obtain ⟨front, frontParsed, frontPrinted⟩ := exists_parse_of_render accepted
  obtain ⟨back, backParsed, backPrinted⟩ := exists_parse_of_render follows
  have lines : (parse 1 "\nwhen 2 then else set x 3 end").toOption.map
      (fun program => (blockStatements program.statements).map Statement.line) = some [2, 2] := by
    decide +kernel
  rw [backParsed] at lines
  have lines : (blockStatements back.statements).map Statement.line = [2, 2] :=
    Option.some.inj lines
  refine ⟨front, back, frontParsed, backParsed, frontPrinted, backPrinted,
    parse_append_newline frontParsed backParsed, lines, ?_⟩
  rw [((shift_unlined_line 2).2 back.statements).2, lines]
  rfl

end Program

end ChatScript
