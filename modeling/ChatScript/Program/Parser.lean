import ChatScript.ParseError
import ChatScript.Program
import ChatScript.Program.Complaint
import ChatScript.Token.Lexer

/-!
# Parsing

Scripts are parsed by descent over the token list. Expressions are parsed with a budget: every
operator, group, call and reference of a statement counts against it, so no expression nests
deeper than the budget, and the parser of nested expressions is defined by recursion on the number
of levels that are left. In the same way `when` blocks are parsed by recursion on the number of
blocks that may still be opened.

The functions below take the parser of what is nested one level further down as an argument; the
recursion is tied in `expressionAt` and `blockAt`.
-/

namespace ChatScript

/-- The tokens still to be read, and how much of the statement's budget is spent. -/
structure Cursor where
  rest : List Token
  spent : Nat

/-- A parser reads off the front of the tokens, or finds a fault. -/
abbrev Parser (α : Type) := Cursor → Except Fault (α × Cursor)

/-- Counts one operator, group, call or reference against the budget. -/
def spend (line spent : Nat) : Except Fault Nat :=
  if spent < maxExpressionSize then .ok (spent + 1) else .error ⟨.line line, .tooLarge⟩

namespace Cursor

/-- Counts one construct on `line` against the budget. -/
def grow (line : Nat) (cursor : Cursor) : Except Fault Cursor := do
  let spent ← spend line cursor.spent
  .ok { cursor with spent }

/-- Passes over the closing parenthesis that ends what `setting` says. -/
def close (setting : Setting) (cursor : Cursor) : Except Fault Cursor :=
  match cursor.rest with
  | ⟨.closeParen, _, _⟩ :: rest => .ok { cursor with rest }
  | rest => .error (.unexpected setting rest)

end Cursor

section Expressions

variable (nested : Parser Expr)

/-- The arguments of a call up to its closing parenthesis. At least one token goes with every
argument, so there are no more of them than tokens in `bound`. -/
def argumentsUpTo (function : String) : (bound : List Token) → Parser (List Expr)
  | [], cursor => .error (.unexpected .expression cursor.rest)
  | _ :: bound, cursor => do
    let (argument, cursor) ← nested cursor
    match cursor.rest with
    | ⟨.comma, _, _⟩ :: rest =>
      let (others, cursor) ← argumentsUpTo function bound { cursor with rest }
      .ok (argument :: others, cursor)
    | ⟨.closeParen, _, _⟩ :: rest => .ok ([argument], { cursor with rest })
    | rest => .error (.unexpected (.call function) rest)

/-- A call, from behind its opening parenthesis on the given line. -/
def call (function : String) (line : Nat) : Parser Expr := fun cursor => do
  let cursor ← cursor.grow line
  match cursor.rest with
  | ⟨.closeParen, _, _⟩ :: rest => .ok (.call function [], { cursor with rest })
  | tokens =>
    let (arguments, cursor) ← argumentsUpTo nested function tokens cursor
    .ok (.call function arguments, cursor)

/-- What a reference refers to: a name, a call or an argument position. -/
def target : Parser Expr := fun cursor =>
  match cursor.rest with
  | ⟨.identifier name, _, _⟩ :: ⟨.openParen, _, line⟩ :: rest =>
    call nested name line { cursor with rest }
  | ⟨.identifier name, _, _⟩ :: rest => .ok (.reference name, { cursor with rest })
  | ⟨.number position, _, _⟩ :: rest => .ok (.reference position.repr, { cursor with rest })
  | rest => .error (.unexpected .target rest)

/-- A reference inside a string literal on the given line: its body has to consist of exactly one
target. Returns the budget spent so far. -/
def embedded (line : Nat) (body : String) (spent : Nat) : Except Fault (Expr × Nat) :=
  match (tokenize body).map fun token => { token with line } with
  | [] => .error ⟨.line line, .emptyReference⟩
  | tokens =>
    match target nested ⟨tokens, spent⟩ with
    | .error fault => .error { fault with place := .line (fault.place.lineIn line) }
    | .ok (value, ⟨[], spent⟩) => .ok (value, spent)
    | .ok (_, ⟨token :: _, _⟩) => .error ⟨.line line, .leftover token.lexeme body⟩

/-- The expressions that the fragments of a string literal on the given line stand for. -/
def literalParts (line : Nat) : List Fragment → Nat → Except Fault (List Expr × Nat)
  | [], spent => .ok ([], spent)
  | .text content :: fragments, spent => do
    let (others, spent) ← literalParts line fragments spent
    .ok (.literal (.text content) :: others, spent)
  | .reference body :: fragments, spent => do
    let spent ← spend line spent
    let (value, spent) ← embedded nested line body spent
    let (others, spent) ← literalParts line fragments spent
    .ok (value :: others, spent)

/-- The parts of a string literal as one expression: a single part stands for itself. -/
def joinParts : List Expr → Expr
  | [part] => part
  | parts => .interpolated parts

/-- An operand: a literal, a name, a call, a reference or an expression in parentheses. -/
def primary : Parser Expr := fun cursor =>
  match cursor.rest with
  | [] => .error (.unexpected .expression [])
  | token :: rest =>
    let next := { cursor with rest }
    match token.kind with
    | .literal fragments => do
      let (parts, spent) ← literalParts nested token.line fragments cursor.spent
      .ok (joinParts parts, { next with spent })
    | .number value => .ok (.literal (.number value), next)
    | .boolean value => .ok (.literal (.boolean value), next)
    | .operator .minus =>
      match rest with
      | ⟨.number value, _, _⟩ :: rest => .ok (.literal (.number (-value)), { cursor with rest })
      | _ => .error ⟨.line token.line, .numberExpected⟩
    | .identifier name =>
      match rest with
      | ⟨.openParen, _, line⟩ :: rest => call nested name line { cursor with rest }
      | _ => .ok (.named name, next)
    | .dollar => do
      let next ← next.grow token.line
      match rest with
      | ⟨.openParen, _, _⟩ :: rest =>
        let (value, next) ← target nested { next with rest }
        let next ← next.close .reference
        .ok (value, next)
      | _ => .error ⟨.line token.line, .parenExpected⟩
    | .openParen => do
      let next ← next.grow token.line
      let (value, next) ← nested next
      let next ← next.close .group
      .ok (value, next)
    | .keyword word => .error ⟨.line token.line, .keywordInExpression word⟩
    | _ => .error (.unexpected .expression (token :: rest))

/-- The operation of a mark that joins operands from left to right. -/
def additiveOp? : TokenKind → Option BinaryOp
  | .operator .plus => some .add
  | .operator .minus => some .subtract
  | _ => none

/-- The operation of a mark that compares two sums. -/
def comparisonOp? : TokenKind → Option BinaryOp
  | .operator .equal => some .equal
  | .operator .notEqual => some .notEqual
  | .operator .less => some .less
  | .operator .lessEqual => some .lessEqual
  | .operator .greater => some .greater
  | .operator .greaterEqual => some .greaterEqual
  | _ => none

/-- Joins further operands to `left` while additive marks follow. Every mark is a token, so there
are no more of them than tokens in `bound`. -/
def sumUpTo : (bound : List Token) → (left : Expr) → Parser Expr
  | [], left, cursor => .ok (left, cursor)
  | _ :: bound, left, cursor =>
    match cursor.rest with
    | [] => .ok (left, cursor)
    | token :: rest =>
      match additiveOp? token.kind with
      | none => .ok (left, cursor)
      | some op => do
        let cursor ← cursor.grow token.line
        let (right, cursor) ← primary nested { cursor with rest }
        sumUpTo bound (.binary op left right) cursor

/-- Operands joined by additive marks, from left to right. -/
def sum : Parser Expr := fun cursor => do
  let (left, cursor) ← primary nested cursor
  sumUpTo nested cursor.rest left cursor

/-- A sum, or two sums compared with each other. -/
def comparison : Parser Expr := fun cursor => do
  let (left, cursor) ← sum nested cursor
  match cursor.rest with
  | [] => .ok (left, cursor)
  | token :: rest =>
    match comparisonOp? token.kind with
    | none => .ok (left, cursor)
    | some op =>
      let cursor ← cursor.grow token.line
      let (right, cursor) ← sum nested { cursor with rest }
      .ok (.binary op left right, cursor)

end Expressions

/-- An expression that nests fewer than the given number of levels. -/
def expressionAt : (levels : Nat) → Parser Expr
  | 0 => fun cursor => .error ⟨(Fault.unexpected .expression cursor.rest).place, .tooLarge⟩
  | levels + 1 => comparison (expressionAt levels)

/-- An expression. Going down a level costs part of the budget, so there are never more levels
than the budget allows. -/
def expression : Parser Expr :=
  expressionAt (maxExpressionSize + 1)

/-- Reads off the front of the tokens of a statement or of a block. -/
abbrev BlockParser (α : Type) := List Token → Except Fault (α × List Token)

/-- The expression of a statement, with a budget of its own. -/
def statementValue : BlockParser Expr := fun tokens => do
  let (value, cursor) ← expression ⟨tokens, 0⟩
  .ok (value, cursor.rest)

/-- Whether a statement may end in front of the given tokens. -/
def endsStatement : List Token → Bool
  | [] => true
  | token :: _ =>
    match token.kind with
    | .newline | .keyword _ => true
    | _ => false

/-- The tokens without the newlines at their front. -/
def skipNewlines (tokens : List Token) : List Token :=
  tokens.dropWhile (·.kind = .newline)

/-- The tokens without the equals sign that may stand behind the variable of a `set`. -/
def skipAssign : List Token → List Token
  | ⟨.operator .assign, _, _⟩ :: rest => rest
  | tokens => tokens

/-- A `set` on the given line, from behind its keyword. -/
def setStatement (line : Nat) : BlockParser Statement := fun tokens =>
  match tokens with
  | ⟨.identifier name, _, _⟩ :: rest =>
    if endsStatement (skipAssign rest) then .error ⟨.line line, .setWithoutValue name⟩
    else do
      let (value, rest) ← statementValue (skipAssign rest)
      .ok (.set name value line, rest)
  | _ => .error ⟨.line line, .variableExpected⟩

/-- A `send` on the given line, from behind its keyword. -/
def sendStatement (line : Nat) : BlockParser Statement := fun tokens =>
  if endsStatement tokens then .error ⟨.line line, .sendWithoutValue⟩
  else do
    let (value, rest) ← statementValue tokens
    .ok (.send value line, rest)

/-- A `when` on the given line, from behind its keyword. `block` parses a branch up to the keyword
that ends it. -/
def whenStatement (block : BlockParser (List Statement)) (line : Nat) :
    BlockParser Statement := fun tokens =>
  if endsStatement tokens then .error ⟨.line line, .whenWithoutCondition⟩
  else do
    let (condition, rest) ← statementValue tokens
    match rest with
    | ⟨.keyword .then, _, _⟩ :: rest =>
      let (thenBranch, rest) ← block rest
      match rest with
      | ⟨.keyword .else, _, _⟩ :: rest =>
        let (elseBranch, rest) ← block rest
        match rest with
        | ⟨.keyword .else, _, second⟩ :: _ => .error ⟨.line second, .secondElse⟩
        | ⟨.keyword .end, _, _⟩ :: rest =>
          .ok (.conditional condition thenBranch (some elseBranch) line, rest)
        | _ => .error ⟨.line line, .endMissing⟩
      | ⟨.keyword .end, _, _⟩ :: rest =>
        .ok (.conditional condition thenBranch none line, rest)
      | _ => .error ⟨.line line, .endMissing⟩
    | _ => .error ⟨.line line, .thenExpected⟩

/-- A statement that starts with `token`, where `whenParser` parses a `when` on a given line. -/
def statement (whenParser : Nat → BlockParser Statement) (token : Token) :
    BlockParser Statement := fun rest =>
  match token.kind with
  | .keyword .set => setStatement token.line rest
  | .keyword .when => whenParser token.line rest
  | .keyword .send => sendStatement token.line rest
  | .keyword word => .error ⟨.line token.line, .unmatched word⟩
  | .identifier name => .error ⟨.line token.line, .unknownKeyword name⟩
  | _ => .error ⟨.line token.line, .statementExpected token.lexeme⟩

/-- Whether a token is the keyword that ends a branch of a `when`. -/
def endsBranch (token : Token) : Bool :=
  token.kind = .keyword .else || token.kind = .keyword .end

/-- Statements up to the end of the tokens or up to a token that satisfies `stops`. Every
statement takes a token, so there are no more of them than tokens in `bound`. -/
def statementsUpTo (whenParser : Nat → BlockParser Statement) (stops : Token → Bool) :
    (bound : List Token) → BlockParser (List Statement)
  | [], tokens => .ok ([], tokens)
  | _ :: bound, tokens =>
    match skipNewlines tokens with
    | [] => .ok ([], [])
    | token :: rest =>
      if stops token then .ok ([], token :: rest)
      else do
        let (first, rest) ← statement whenParser token rest
        if endsStatement rest then
          let (others, rest) ← statementsUpTo whenParser stops bound rest
          .ok (first :: others, rest)
        else .error (.unexpected .afterStatement rest)

/-- The parser of a `when` in a place where `levels` blocks may still be opened, out of `limit`. -/
def whenAt (limit : Nat) : (levels : Nat) → (line : Nat) → BlockParser Statement
  | 0, line => fun _ => .error ⟨.line line, .tooDeep limit⟩
  | levels + 1, line =>
    whenStatement
      (fun tokens => statementsUpTo (whenAt limit levels) endsBranch tokens tokens) line

/-- The program that the tokens of a source make up, with at most `limit` blocks open at once. -/
def programOfTokens (limit : Nat) (tokens : List Token) : Except Fault Program :=
  match skipNewlines tokens with
  | [] => .error ⟨.line 1, .emptyScript⟩
  | rest => do
    let (statements, _) ← statementsUpTo (whenAt limit limit) (fun _ => false) rest rest
    .ok ⟨statements⟩

/-- The line that a source with the given tokens ends on, as far as complaints are concerned. -/
def endLine (tokens : List Token) : Nat :=
  (tokens.getLast?.map Token.line).getD 1

/-- The number of blocks that may be open at once unless another limit is set. -/
def defaultDepth : Nat := 64

namespace Program

/-- Parses the source of a script with at most `limit` blocks open at once. -/
def parse (limit : Nat) (source : String) : Except ParseError Program :=
  let tokens := tokenize source
  match programOfTokens limit tokens with
  | .ok program => .ok program
  | .error fault =>
    .error (.onLine source (fault.place.lineIn (endLine tokens)) fault.complaint.message)

end Program

end ChatScript
