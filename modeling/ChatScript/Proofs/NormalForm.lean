import ChatScript.Program.Printer
import ChatScript.Proofs.Completeness
import ChatScript.Proofs.Tree
import ChatScript.Proofs.Vocabulary

/-! # The normal form of programs

Not every tree can come out of a source. In a tree that does, names are names, numbers are in
range, and string literals are joined as far as they can be (`Expr.Regular`, for a single node).
`regular_of_parse` says so of every accepted source; later the printer is shown to need no more.
Together with the limit on open blocks this is the normal form of a program (`Program.Normal`).
-/

namespace ChatScript

namespace Expr

/-- Whether an expression is a literal. -/
def isLiteral : Expr → Bool
  | .literal _ => true
  | _ => false

/-- Whether an expression can stand next to others in one string literal: text that is not empty,
a reference or a call. -/
def isPart : Expr → Bool
  | .literal (.text content) => content != ""
  | .reference _ | .call _ _ => true
  | _ => false

/-- What is required of an expression, without regard to the expressions inside of it. -/
def Regular : Expr → Prop
  | .literal (.number value) => Text.minNumber < value ∧ value ≤ Text.maxNumber
  | .literal _ => True
  | .named name => isName name
  | .reference name => isName name ∨ ∃ position ≤ Text.maxNumber.toNat, name = position.repr
  | .call function _ => isName function
  | .interpolated parts => 2 ≤ parts.length ∧ (∀ part ∈ parts, part.isPart) ∧
      parts.IsChain fun first second => ¬ (first.isLiteral ∧ second.isLiteral)
  | .binary _ _ _ => True

/-- An expression is normal if everything in it is regular. -/
def Normal (expr : Expr) : Prop :=
  ∀ sub ∈ expr.subterms, sub.Regular

theorem Normal.regular {expr : Expr} (normal : expr.Normal) : expr.Regular :=
  normal expr expr.self_mem_subterms

@[simp] theorem normal_literal {value : Value} :
    (literal value).Normal ↔ (literal value).Regular := by
  simp [Normal, subterms]

@[simp] theorem normal_named {name : String} : (named name).Normal ↔ isName name := by
  simp [Normal, subterms, Regular]

@[simp] theorem normal_reference {name : String} :
    (reference name).Normal ↔ (reference name).Regular := by
  simp [Normal, subterms]

@[simp] theorem normal_call {function : String} {arguments : List Expr} :
    (call function arguments).Normal ↔
      isName function ∧ ∀ argument ∈ arguments, argument.Normal :=
  forall_mem_subterms_call

@[simp] theorem normal_interpolated {parts : List Expr} :
    (interpolated parts).Normal ↔
      (interpolated parts).Regular ∧ ∀ part ∈ parts, part.Normal :=
  forall_mem_subterms_interpolated

@[simp] theorem normal_binary {op : BinaryOp} {left right : Expr} :
    (binary op left right).Normal ↔ left.Normal ∧ right.Normal := by
  rw [Normal, forall_mem_subterms_binary, Regular, true_and, Normal, Normal]

end Expr

/-- What is required of a statement, without regard to the statements inside of it. -/
def Statement.Regular : Statement → Prop
  | .set name value _ => isName name ∧ value.Normal
  | .conditional condition _ _ _ => condition.Normal
  | .send value _ => value.Normal

/-- What the trees of a phrase look like if the lexer has made its tokens. A literal is judged by
its fragments, because the rest of a literal need not be a literal of its own. -/
def NormalPhrase : Phrase → List TokenKind → Prop
  | .expression value, kinds | .sum value, kinds | .operand value, kinds | .target value, kinds =>
      (∀ kind ∈ kinds, kind.Lexical) → value.Normal
  | .call function arguments, kinds => (∀ kind ∈ kinds, kind.Lexical) →
      isName function ∧ ∀ argument ∈ arguments, argument.Normal
  | .arguments values, kinds => (∀ kind ∈ kinds, kind.Lexical) → ∀ value ∈ values, value.Normal
  | .parts values, kinds => ∀ fragments, kinds = [.literal fragments] →
      (∀ value ∈ values, value.Normal) ∧
        values.map Expr.isLiteral = fragments.map Fragment.isText ∧
        ((∀ content, .text content ∈ fragments → content ≠ "") → ∀ value ∈ values, value.isPart)

/-- What a reference can refer to may stand next to text, and is never a literal. -/
theorem Derives.target_isPart {value : Expr} {kinds : List TokenKind} {size : Nat}
    (derivation : Derives (.target value) kinds size) :
    value.isPart ∧ value.isLiteral = false := by
  cases derivation <;> exact ⟨rfl, rfl⟩

/-- An interpolated literal is regular if its parts are like the fragments that the lexer makes. -/
theorem regular_interpolated {values : List Expr} {fragments : List Fragment}
    (lexical : (TokenKind.literal fragments).Lexical) (plural : values.length ≠ 1)
    (same : values.map Expr.isLiteral = fragments.map Fragment.isText)
    (parts : (∀ content, .text content ∈ fragments → content ≠ "") →
      ∀ value ∈ values, value.isPart) :
    (Expr.interpolated values).Regular := by
  have lengths : values.length = fragments.length := by
    simpa using congrArg List.length same
  rcases lexical with rfl | ⟨some, full, apart⟩
  · exact absurd lengths plural
  · refine ⟨?_, parts full, ?_⟩
    · have := List.length_pos_iff.mpr some
      omega
    · have flags : (fragments.map Fragment.isText).IsChain
          fun first second => ¬ (first = true ∧ second = true) := (List.isChain_map _).mpr apart
      rw [← same] at flags
      exact (List.isChain_map _).mp flags

/-- The trees that are derived from the lexer's tokens are normal. -/
theorem normal_of_derives {phrase : Phrase} {kinds : List TokenKind} {size : Nat}
    (derivation : Derives phrase kinds size) : NormalPhrase phrase kinds := by
  induction derivation with
  | sum _ ih | operand _ ih => exact ih
  | compare _ _ _ first second | join _ _ _ first second =>
      intro lexical
      simp only [List.forall_mem_append, List.forall_mem_cons] at lexical
      exact Expr.normal_binary.mpr ⟨first lexical.1, second lexical.2.2⟩
  | number value =>
      intro lexical
      have small : value ≤ Text.maxNumber.toNat := lexical _ (List.mem_singleton_self _)
      simp only [Expr.normal_literal, Expr.Regular, Text.minNumber, Text.maxNumber] at small ⊢
      omega
  | negative value =>
      intro lexical
      have small : value ≤ Text.maxNumber.toNat := lexical (.number value) (by simp)
      simp only [Expr.normal_literal, Expr.Regular, Text.minNumber, Text.maxNumber] at small ⊢
      omega
  | boolean value => exact fun _ => Expr.normal_literal.mpr trivial
  | named name => exact fun lexical => Expr.normal_named.mpr (lexical _ (List.mem_singleton_self _))
  | called _ ih | targetCall _ ih => exact fun lexical => Expr.normal_call.mpr (ih lexical)
  | referred _ ih =>
      intro lexical
      exact ih fun kind member => lexical kind (by simp [member])
  | group _ ih =>
      intro lexical
      exact ih fun kind member => lexical kind (by simp [member])
  | single _ ih =>
      intro _
      exact (ih _ rfl).1 _ (List.mem_singleton_self _)
  | several plural _ ih =>
      intro lexical
      obtain ⟨normal, same, parts⟩ := ih _ rfl
      refine Expr.normal_interpolated.mpr ⟨?_, normal⟩
      exact regular_interpolated (lexical _ (List.mem_singleton_self _)) plural same parts
  | emptyCall function => exact fun lexical => ⟨lexical (.identifier function) (by simp), by simp⟩
  | @call function _ _ _ _ ih =>
      intro lexical
      refine ⟨lexical (.identifier function) (by simp), ih fun kind member => ?_⟩
      exact lexical kind (by simp [member])
  | lastArgument _ ih =>
      intro lexical
      simpa using ih lexical
  | argument _ _ first further =>
      intro lexical
      simp only [List.forall_mem_append, List.forall_mem_cons] at lexical ⊢
      exact ⟨first lexical.1, further lexical.2.2⟩
  | name name =>
      exact fun lexical => Expr.normal_reference.mpr (.inl (lexical _ (List.mem_singleton_self _)))
  | position value =>
      intro lexical
      exact Expr.normal_reference.mpr (.inr ⟨value, lexical _ (List.mem_singleton_self _), rfl⟩)
  | noPart =>
      intro fragments same
      cases same
      exact ⟨by simp, rfl, by simp⟩
  | textPart content _ ih =>
      intro fragments same
      cases same
      obtain ⟨normal, kinds, parts⟩ := ih _ rfl
      refine ⟨?_, ?_, fun full => ?_⟩
      · simpa [Expr.Regular] using normal
      · simp [Expr.isLiteral, Fragment.isText, kinds]
      · have nonempty := full content (by simp)
        have others := parts fun text member => full text (by simp [member])
        simpa [Expr.isPart, nonempty] using others
  | referencePart inner _ first further =>
      intro fragments same
      cases same
      obtain ⟨normal, kinds, parts⟩ := further _ rfl
      obtain ⟨isPart, notLiteral⟩ := inner.target_isPart
      refine ⟨?_, ?_, fun full => ?_⟩
      · have head := first fun kind member => lexical_of_mem_tokenize member
        exact List.forall_mem_cons.mpr ⟨head, normal⟩
      · simp [Fragment.isText, notLiteral, kinds]
      · have others := parts fun text member => full text (by simp [member])
        exact List.forall_mem_cons.mpr ⟨isPart, others⟩

/-- All statements of a clause, at every depth. -/
def Clause.statements : Clause → List Statement
  | .statement first => first.substatements
  | .block all => blockStatements all

/-- The expression of a statement, and the name that it binds, can be found among the tokens. -/
def Statement.Among (statement : Statement) (tokens : List Token) : Prop :=
  (∃ front, front ⊆ tokens ∧ FormsValue front statement.value) ∧
    ∀ name value line, statement = .set name value line → .identifier name ∈ tokens.map Token.kind

theorem Statement.Among.mono {statement : Statement} {tokens others : List Token}
    (among : statement.Among tokens) (more : tokens ⊆ others) : statement.Among others := by
  obtain ⟨⟨front, inside, value⟩, names⟩ := among
  refine ⟨⟨front, fun _ member => more (inside member), value⟩, ?_⟩
  intro name value line isSet
  exact List.map_subset Token.kind more (names name value line isSet)

/-- Every statement of a clause is found among the tokens of the clause. -/
theorem Forms.among {levels : Nat} {clause : Clause} {tokens : List Token}
    (forms : Forms levels clause tokens) :
    ∀ statement ∈ clause.statements, statement.Among tokens := by
  induction forms with
  | @set _ _ _ _ _ tokens _ isName value | @assign _ _ _ _ _ _ tokens _ isName _ value =>
      intro statement member
      simp only [Clause.statements, Statement.substatements, List.mem_singleton] at member
      subst member
      refine ⟨⟨tokens, fun token inside => by simp [inside], value⟩, ?_⟩
      rintro _ _ _ ⟨⟩
      simp [isName]
  | @send _ _ _ tokens _ value =>
      intro statement member
      simp only [Clause.statements, Statement.substatements, List.mem_singleton] at member
      subst member
      exact ⟨⟨tokens, fun token inside => by simp [inside], value⟩, by simp⟩
  | @conditional _ _ _ _ _ _ tokens thens _ value _ _ _ ih =>
      intro statement member
      simp only [Clause.statements, Statement.substatements, List.mem_cons] at member
      rcases member with rfl | inside
      · exact ⟨⟨tokens, fun token inside => by simp [inside], value⟩, by simp⟩
      · exact (ih statement inside).mono fun token inside => by simp [inside]
  | @alternative _ _ _ _ _ _ _ _ tokens thens elses _ value _ _ _ _ _ first second =>
      intro statement member
      simp only [Clause.statements, Statement.substatements, List.mem_cons, List.mem_append]
        at member
      rcases member with rfl | inside | inside
      · exact ⟨⟨tokens, fun token inside => by simp [inside], value⟩, by simp⟩
      · exact (first statement inside).mono fun token inside => by simp [inside]
      · exact (second statement inside).mono fun token inside => by simp [inside]
  | empty =>
      intro statement member
      simp [Clause.statements, blockStatements] at member
  | newline _ _ ih =>
      intro statement member
      exact (ih statement member).mono (List.subset_cons_self _ _)
  | next _ _ first block =>
      intro statement member
      simp only [Clause.statements, blockStatements, List.mem_append] at member
      rcases member with inside | inside
      · exact (first statement inside).mono (List.subset_append_left _ _)
      · exact (block statement inside).mono (List.subset_append_right _ _)

/-- A statement is regular if it is found among well-formed tokens. -/
theorem Statement.Among.regular {statement : Statement} {tokens : List Token}
    (among : statement.Among tokens) (lexical : ∀ token ∈ tokens, token.kind.Lexical) :
    statement.Regular := by
  obtain ⟨⟨front, inside, size, -, derivation⟩, names⟩ := among
  have normal : statement.value.Normal := by
    refine normal_of_derives derivation fun kind member => ?_
    obtain ⟨token, present, rfl⟩ := List.mem_map.mp member
    exact lexical token (inside present)
  cases statement with
  | set name value line =>
      obtain ⟨token, present, kind⟩ := List.mem_map.mp (names name value line rfl)
      have valid := lexical token present
      rw [kind] at valid
      exact ⟨valid, normal⟩
  | conditional condition thenBranch elseBranch line => exact normal
  | send value line => exact normal

/-- Every statement of a script, however deep, is found among its tokens. -/
theorem among_of_parse {limit : Nat} {source : String} {program : Program}
    (parsed : Program.parse limit source = .ok program) :
    ∀ statement ∈ program.allStatements, statement.Among (tokenize source) :=
  (Program.parse_eq_ok_iff_forms.mp parsed).2.among

/-- Every statement of a program that was parsed is regular. -/
theorem regular_of_parse {limit : Nat} {source : String} {program : Program}
    (parsed : Program.parse limit source = .ok program) :
    ∀ statement ∈ program.allStatements, statement.Regular := by
  intro statement member
  exact (among_of_parse parsed statement member).regular fun token => lexical_of_mem_tokensFrom

/-- How many blocks a clause opens inside of each other. -/
def Clause.depth : Clause → Nat
  | .statement first => first.depth
  | .block all => blockDepth all

/-- A derivation with that many levels opens no more blocks inside of each other. -/
theorem Forms.depth_le {levels : Nat} {clause : Clause} {tokens : List Token}
    (forms : Forms levels clause tokens) : clause.depth ≤ levels := by
  induction forms with
  | set | assign | send | empty => exact Nat.zero_le _
  | conditional _ _ _ _ _ ih => exact Nat.succ_le_succ ih
  | alternative _ _ _ _ _ _ _ first second =>
      exact Nat.succ_le_succ (Nat.max_le.mpr ⟨first, second⟩)
  | newline _ _ ih => exact ih
  | next _ _ first others => exact Nat.max_le.mpr ⟨first, others⟩

/-- An accepted source is known by the canonical text of its program. -/
theorem Program.exists_parse_of_render {limit : Nat} {source text : String}
    (printed : (Program.parse limit source).toOption.map Program.render = some text) :
    ∃ program, Program.parse limit source = .ok program ∧ program.render = text := by
  cases parsed : Program.parse limit source with
  | error fault => simp [parsed, Except.toOption] at printed
  | ok program => exact ⟨program, rfl, by simpa [parsed, Except.toOption] using printed⟩

/-- A program in normal form: it has a statement, no more than `limit` blocks are open at once, and
at every depth its names, numbers and literals are regular. -/
structure Program.Normal (program : Program) (limit : Nat) : Prop where
  some : program.statements ≠ []
  shallow : blockDepth program.statements ≤ limit
  regular : ∀ statement ∈ program.allStatements, statement.Regular

/-- **Every program that was parsed is in normal form.** No number that the lexer makes, be it of a
source or of the body of a reference, is so great that its negative would be out of range. -/
theorem Program.normal_of_parse (limit : Nat) (source : String) (program : Program)
    (parsed : Program.parse limit source = .ok program) :
    program.Normal limit ∧ ∀ text (value : Nat), .number value ∈ (tokenize text).map Token.kind →
      Text.minNumber < -(value : Int) ∧ (value : Int) ≤ Text.maxNumber := by
  obtain ⟨some, forms⟩ := Program.parse_eq_ok_iff_forms.mp parsed
  refine ⟨⟨some, forms.depth_le, regular_of_parse parsed⟩, fun text value member => ?_⟩
  have small : value ≤ Text.maxNumber.toNat := lexical_of_mem_tokenize member
  simp only [Text.minNumber, Text.maxNumber] at small ⊢
  omega

theorem Program.normal_of_parse_nested :
    ∃ program, Program.parse 1 "when x - -9223372036854775807 then send 'a$(007)$(f(\"\"))' end" =
        .ok program ∧
      program.render =
        "when x - -9223372036854775807 then\n  send \"a$(7)$(f(\"\"))\"\nend\n" ∧
      program.Normal 1 := by
  have accepted : (Program.parse 1
      "when x - -9223372036854775807 then send 'a$(007)$(f(\"\"))' end").toOption.map
      Program.render =
        some "when x - -9223372036854775807 then\n  send \"a$(7)$(f(\"\"))\"\nend\n" := by
    decide +kernel
  obtain ⟨program, parsed, printed⟩ := Program.exists_parse_of_render accepted
  exact ⟨program, parsed, printed, (Program.normal_of_parse 1 _ program parsed).1⟩

end ChatScript
