import ChatScript.Program
import ChatScript.Token.Lexer

/-! # The grammar of scripts

The grammar says which tokens make up which tree, without saying how to find the tree. Expressions
are derived from token kinds alone (`Derives`); a derivation counts the operators, groups, calls
and references it is made of, because a statement may not have too many of them. Statements and
blocks are derived from tokens (`Forms`), since a statement remembers the line of its keyword; a
derivation bounds the number of blocks that are open at once.
-/

namespace ChatScript

/-- The marks that join operands, with the operations they stand for. -/
inductive AdditiveMark : Operator → BinaryOp → Prop where
  | plus : AdditiveMark .plus .add
  | minus : AdditiveMark .minus .subtract

/-- The marks that compare two sums, with the operations they stand for. -/
inductive ComparisonMark : Operator → BinaryOp → Prop where
  | equal : ComparisonMark .equal .equal
  | notEqual : ComparisonMark .notEqual .notEqual
  | less : ComparisonMark .less .less
  | lessEqual : ComparisonMark .lessEqual .lessEqual
  | greater : ComparisonMark .greater .greater
  | greaterEqual : ComparisonMark .greaterEqual .greaterEqual

/-- What a stretch of tokens can be derived as, together with the trees it stands for. -/
inductive Phrase where
  /-- A sum, or two sums compared with each other. -/
  | expression (value : Expr)
  /-- Operands joined by additive marks. -/
  | sum (value : Expr)
  /-- A literal, a name, a call, a reference or a group. -/
  | operand (value : Expr)
  /-- A function's name and its arguments in parentheses. -/
  | call (function : String) (arguments : List Expr)
  /-- Expressions separated by commas. -/
  | arguments (values : List Expr)
  /-- What may stand inside of `$(` and `)`. -/
  | target (value : Expr)
  /-- The fragments of one string literal. -/
  | parts (values : List Expr)

/-- `Derives phrase kinds size` says that tokens of the given kinds make up the phrase, and that
`size` operators, groups, calls and references go into it. -/
inductive Derives : Phrase → List TokenKind → Nat → Prop where
  | sum {value kinds size} : Derives (.sum value) kinds size →
      Derives (.expression value) kinds size
  | compare {mark op left right lefts rights m n} : ComparisonMark mark op →
      Derives (.sum left) lefts m → Derives (.sum right) rights n →
      Derives (.expression (.binary op left right)) (lefts ++ .operator mark :: rights) (m + n + 1)
  | operand {value kinds size} : Derives (.operand value) kinds size →
      Derives (.sum value) kinds size
  | join {mark op left right lefts rights m n} : AdditiveMark mark op →
      Derives (.sum left) lefts m → Derives (.operand right) rights n →
      Derives (.sum (.binary op left right)) (lefts ++ .operator mark :: rights) (m + n + 1)
  | number (value : Nat) : Derives (.operand (.literal (.number value))) [.number value] 0
  | negative (value : Nat) :
      Derives (.operand (.literal (.number (-value)))) [.operator .minus, .number value] 0
  | boolean (value : Bool) : Derives (.operand (.literal (.boolean value))) [.boolean value] 0
  | named (name : String) : Derives (.operand (.named name)) [.identifier name] 0
  | called {function arguments kinds size} : Derives (.call function arguments) kinds size →
      Derives (.operand (.call function arguments)) kinds size
  | referred {value kinds size} : Derives (.target value) kinds size →
      Derives (.operand value) (.dollar :: .openParen :: kinds ++ [.closeParen]) (size + 1)
  | group {value kinds size} : Derives (.expression value) kinds size →
      Derives (.operand value) (.openParen :: kinds ++ [.closeParen]) (size + 1)
  | single {value fragments size} : Derives (.parts [value]) [.literal fragments] size →
      Derives (.operand value) [.literal fragments] size
  | several {values fragments size} : values.length ≠ 1 →
      Derives (.parts values) [.literal fragments] size →
      Derives (.operand (.interpolated values)) [.literal fragments] size
  | emptyCall (function : String) :
      Derives (.call function []) [.identifier function, .openParen, .closeParen] 1
  | call {function arguments kinds size} : Derives (.arguments arguments) kinds size →
      Derives (.call function arguments)
        (.identifier function :: .openParen :: kinds ++ [.closeParen]) (size + 1)
  | lastArgument {value kinds size} : Derives (.expression value) kinds size →
      Derives (.arguments [value]) kinds size
  | argument {value values kinds others m n} : Derives (.expression value) kinds m →
      Derives (.arguments values) others n →
      Derives (.arguments (value :: values)) (kinds ++ .comma :: others) (m + n)
  | name (name : String) : Derives (.target (.reference name)) [.identifier name] 0
  | position (value : Nat) : Derives (.target (.reference value.repr)) [.number value] 0
  | targetCall {function arguments kinds size} : Derives (.call function arguments) kinds size →
      Derives (.target (.call function arguments)) kinds size
  | noPart : Derives (.parts []) [.literal []] 0
  | textPart (content : String) {values fragments size} :
      Derives (.parts values) [.literal fragments] size →
      Derives (.parts (.literal (.text content) :: values)) [.literal (.text content :: fragments)]
        size
  | referencePart {body value values fragments m n} :
      Derives (.target value) ((tokenize body).map Token.kind) m →
      Derives (.parts values) [.literal fragments] n →
      Derives (.parts (value :: values)) [.literal (.reference body :: fragments)] (m + 1 + n)

/-- The tokens make up an expression of at most 256 operators, groups, calls and references. -/
def FormsValue (tokens : List Token) (value : Expr) : Prop :=
  ∃ size ≤ 256, Derives (.expression value) (tokens.map Token.kind) size

/-- Whether a token can stand inside of an expression. -/
def TokenKind.isInner : TokenKind → Bool
  | .keyword _ | .newline | .unknown => false
  | _ => true

/-- No keyword, no newline and no unknown token goes into an expression. -/
theorem Derives.isInner {phrase : Phrase} {kinds : List TokenKind} {size : Nat}
    (derivation : Derives phrase kinds size) : ∀ kind ∈ kinds, kind.isInner := by
  induction derivation with
  | sum _ ih | operand _ ih | called _ ih | single _ ih | several _ _ ih | lastArgument _ ih
  | targetCall _ ih => exact ih
  | compare _ _ _ first second | join _ _ _ first second | argument _ _ first second =>
      exact List.forall_mem_append.mpr ⟨first, List.forall_mem_cons.mpr ⟨rfl, second⟩⟩
  | referred _ ih | group _ ih | call _ ih =>
      simpa [or_imp, forall_and, TokenKind.isInner] using ih
  | _ => simp [TokenKind.isInner]

/-- An expression has no keywords, newlines or unknown tokens. -/
theorem FormsValue.isInner {tokens : List Token} {value : Expr}
    (forms : FormsValue tokens value) : ∀ token ∈ tokens, token.kind.isInner := by
  obtain ⟨size, -, derivation⟩ := forms
  exact List.forall_mem_map.mp derivation.isInner

/-- What a stretch of tokens can be formed into. -/
inductive Clause where
  | statement (statement : Statement)
  | block (statements : List Statement)

/-- `Forms levels clause tokens` says that the tokens make up the clause, with at most `levels`
blocks open at once. The `end` of a block is the one behind its own branches, so it closes the
innermost open block. -/
inductive Forms : Nat → Clause → List Token → Prop where
  | set {levels keyword bound name value tokens} : keyword.kind = .keyword .set →
      bound.kind = .identifier name → FormsValue tokens value →
      Forms levels (.statement (.set name value keyword.line)) (keyword :: bound :: tokens)
  | assign {levels keyword bound mark name value tokens} : keyword.kind = .keyword .set →
      bound.kind = .identifier name → mark.kind = .operator .assign → FormsValue tokens value →
      Forms levels (.statement (.set name value keyword.line))
        (keyword :: bound :: mark :: tokens)
  | send {levels keyword value tokens} : keyword.kind = .keyword .send → FormsValue tokens value →
      Forms levels (.statement (.send value keyword.line)) (keyword :: tokens)
  | conditional {levels keyword opening closing condition thenBranch tokens thens} :
      keyword.kind = .keyword .when → FormsValue tokens condition →
      opening.kind = .keyword .then → Forms levels (.block thenBranch) thens →
      closing.kind = .keyword .end →
      Forms (levels + 1) (.statement (.conditional condition thenBranch none keyword.line))
        (keyword :: (tokens ++ opening :: (thens ++ [closing])))
  | alternative {levels keyword opening middle closing condition thenBranch elseBranch tokens
        thens elses} :
      keyword.kind = .keyword .when → FormsValue tokens condition →
      opening.kind = .keyword .then → Forms levels (.block thenBranch) thens →
      middle.kind = .keyword .else → Forms levels (.block elseBranch) elses →
      closing.kind = .keyword .end →
      Forms (levels + 1)
        (.statement (.conditional condition thenBranch (some elseBranch) keyword.line))
        (keyword :: (tokens ++ opening :: (thens ++ middle :: (elses ++ [closing]))))
  | empty {levels} : Forms levels (.block []) []
  | newline {levels separator statements tokens} : separator.kind = .newline →
      Forms levels (.block statements) tokens →
      Forms levels (.block statements) (separator :: tokens)
  | next {levels statement statements tokens others} :
      Forms levels (.statement statement) tokens → Forms levels (.block statements) others →
      Forms levels (.block (statement :: statements)) (tokens ++ others)

/-- The tokens make up a script: at least one statement, and at most `levels` blocks open at
once. -/
def FormsProgram (levels : Nat) (tokens : List Token) (program : Program) : Prop :=
  program.statements ≠ [] ∧ Forms levels (.block program.statements) tokens

end ChatScript
