import ChatScript.Program.Template
import ChatScript.Proofs.NormalForm
import Mathlib.Algebra.Ring.Nat

/-! # What the budget bounds

The budget of a statement counts tokens, not nodes of the tree, and it is spent in several places
of the parser. A derivation knows all of them, so what the budget means for trees is read off
derivations: printing the tree again never costs more than the tokens did
(`affordable_of_derives`), and no tree is higher than its size allows (`low_of_derives`).
-/

namespace ChatScript

namespace Expr

/-- Whether an expression is a call. -/
def isCall : Expr → Bool
  | .call _ _ => true
  | _ => false

/-- Whether an expression is an operation. -/
def isBinary : Expr → Bool
  | .binary _ _ _ => true
  | _ => false

/-- Whether an expression is a comparison. -/
def isComparison : Expr → Bool
  | .binary op _ _ => op.isComparison
  | _ => false

/-- How many of its own parts an interpolated literal calls. -/
def calledParts : Expr → Nat
  | .interpolated parts => parts.countP isCall
  | _ => 0

/-- How many of its own operands an operation puts into parentheses when it is printed. -/
def groupedOperands : Expr → Nat
  | .binary op left right => (leftNeedsParens op left).toNat + (rightNeedsParens op right).toNat
  | _ => 0

/-- What the canonical text of an expression costs: its operations, calls and references, its
calls inside of string literals once more, and the groups that printing adds. -/
def printedSize (expr : Expr) : Nat :=
  expr.nodeCount + (expr.subterms.map calledParts).sum + (expr.subterms.map groupedOperands).sum

/-- Printing an expression costs at least its operations, calls and references. -/
theorem nodeCount_le_printedSize (expr : Expr) : expr.nodeCount ≤ expr.printedSize := by
  unfold printedSize
  omega

/-- The costs of several expressions add up over all of their subterms. -/
theorem sum_printedSize (exprs : List Expr) :
    (exprs.map printedSize).sum = (exprs.flatMap subterms).countP isNode +
      ((exprs.flatMap subterms).map calledParts).sum +
      ((exprs.flatMap subterms).map groupedOperands).sum := by
  induction exprs with
  | nil => rfl
  | cons expr exprs ih =>
      simp only [List.map_cons, List.sum_cons, ih, printedSize, nodeCount, List.flatMap_cons,
        List.countP_append, List.map_append, List.sum_append]
      omega

@[simp] theorem printedSize_literal (value : Value) : (literal value).printedSize = 0 := rfl

@[simp] theorem printedSize_named (name : String) : (named name).printedSize = 0 := rfl

@[simp] theorem printedSize_reference (name : String) : (reference name).printedSize = 1 := rfl

@[simp] theorem printedSize_call (function : String) (arguments : List Expr) :
    (call function arguments).printedSize = (arguments.map printedSize).sum + 1 := by
  rw [sum_printedSize]
  simp only [printedSize, nodeCount, subterms, subtermsOfAll_eq_flatMap, List.countP_cons, isNode,
    List.map_cons, List.sum_cons, calledParts, groupedOperands]
  simp only [↓reduceIte]
  omega

@[simp] theorem printedSize_interpolated (parts : List Expr) :
    (interpolated parts).printedSize = (parts.map printedSize).sum + parts.countP isCall := by
  rw [sum_printedSize]
  simp only [printedSize, nodeCount, subterms, subtermsOfAll_eq_flatMap, List.countP_cons, isNode,
    List.map_cons, List.sum_cons, calledParts, groupedOperands]
  simp only [Bool.false_eq_true, ↓reduceIte]
  omega

@[simp] theorem printedSize_binary (op : BinaryOp) (left right : Expr) :
    (binary op left right).printedSize = left.printedSize + right.printedSize + 1 +
      (leftNeedsParens op left).toNat + (rightNeedsParens op right).toNat := by
  simp only [printedSize, nodeCount, subterms, List.countP_cons, isNode, List.countP_append,
    List.map_cons, List.map_append, List.sum_cons, List.sum_append, calledParts, groupedOperands]
  simp only [↓reduceIte]
  omega

end Expr

/-- On the left, only comparisons are put into parentheses. -/
theorem leftNeedsParens_eq (op : BinaryOp) (left : Expr) :
    leftNeedsParens op left = left.isComparison := by
  cases left with
  | binary inner _ _ => cases op <;> cases inner <;> rfl
  | _ => rfl

/-- On the right of a sum, every operation is put into parentheses. -/
theorem AdditiveMark.rightNeedsParens_eq {mark : Operator} {op : BinaryOp}
    (isMark : AdditiveMark mark op) (right : Expr) :
    rightNeedsParens op right = right.isBinary := by
  cases right with
  | binary inner _ _ => cases isMark <;> cases inner <;> rfl
  | _ => rfl

/-- On the right of a comparison, only comparisons are put into parentheses. -/
theorem ComparisonMark.rightNeedsParens_eq {mark : Operator} {op : BinaryOp}
    (isMark : ComparisonMark mark op) (right : Expr) :
    rightNeedsParens op right = right.isComparison := by
  cases right with
  | binary inner _ _ => cases isMark <;> cases inner <;> rfl
  | _ => rfl

/-- What a derivation of the given size says about the cost of printing its trees. A sum that is a
comparison, and an operand that is an operation, can only have been read from a group. -/
def Affordable : Phrase → Nat → Prop
  | .expression value, size => value.printedSize ≤ size
  | .sum value, size => value.printedSize + value.isComparison.toNat ≤ size
  | .operand value, size => value.printedSize + value.isBinary.toNat ≤ size
  | .call function arguments, size => (Expr.call function arguments).printedSize ≤ size
  | .arguments values, size => (values.map Expr.printedSize).sum ≤ size
  | .target value, size =>
      value.printedSize + value.isCall.toNat ≤ size + 1 ∧ value.isBinary = false
  | .parts values, size => (values.map Expr.printedSize).sum + values.countP Expr.isCall ≤ size ∧
      ∀ value ∈ values, value.isBinary = false

/-- Printing a tree again costs no more than was spent to read it. -/
theorem affordable_of_derives {phrase : Phrase} {kinds : List TokenKind} {size : Nat}
    (derivation : Derives phrase kinds size) : Affordable phrase size := by
  induction derivation with
  | sum _ ih => exact Nat.le_trans (Nat.le_add_right _ _) ih
  | compare isMark _ _ first second =>
      simp only [Affordable, Expr.printedSize_binary, leftNeedsParens_eq,
        isMark.rightNeedsParens_eq] at first second ⊢
      omega
  | @operand value _ _ _ ih =>
      have weaker : value.isComparison.toNat ≤ value.isBinary.toNat := by
        cases value <;> simp [Expr.isComparison, Expr.isBinary, Bool.toNat_le]
      simp only [Affordable] at ih ⊢
      omega
  | @join mark op _ _ _ _ _ _ isMark _ _ first second =>
      have notComparison : op.isComparison = false := by
        cases isMark <;> rfl
      simp only [Affordable, Expr.printedSize_binary, leftNeedsParens_eq,
        isMark.rightNeedsParens_eq, Expr.isComparison, notComparison, Bool.toNat_false]
        at first second ⊢
      omega
  | called _ ih => simpa [Affordable, Expr.isBinary] using ih
  | referred _ ih =>
      simp only [Affordable] at ih ⊢
      rw [ih.2, Bool.toNat_false]
      omega
  | @group value _ _ _ ih =>
      have := Bool.toNat_le value.isBinary
      simp only [Affordable] at ih ⊢
      omega
  | single _ ih =>
      obtain ⟨small, plain⟩ := ih
      simp only [Affordable, plain _ (List.mem_singleton_self _), List.map_cons, List.map_nil,
        List.sum_cons, List.sum_nil, Bool.toNat_false] at small ⊢
      omega
  | several _ _ ih => simpa [Affordable, Expr.isBinary] using ih.1
  | call _ ih => simpa [Affordable] using ih
  | lastArgument _ ih => simpa [Affordable] using ih
  | argument _ _ first further =>
      simp only [Affordable, List.map_cons, List.sum_cons] at first further ⊢
      omega
  | targetCall _ ih =>
      simp only [Affordable, Expr.isCall, Expr.isBinary, Bool.toNat_true, and_true] at ih ⊢
      omega
  | textPart content _ ih => simpa [Affordable, Expr.isCall, Expr.isBinary] using ih
  | @referencePart _ value _ _ _ _ _ _ first further =>
      obtain ⟨small, plain⟩ := first
      obtain ⟨smallRest, plainRest⟩ := further
      refine ⟨?_, List.forall_mem_cons.mpr ⟨plain, plainRest⟩⟩
      have counted : (if value.isCall then 1 else 0) = value.isCall.toNat := by
        cases value.isCall <;> rfl
      rw [List.map_cons, List.sum_cons, List.countP_cons, counted]
      omega
  | _ => simp [Affordable, Expr.isBinary, Expr.isCall]

/-- What a derivation of the given size says about the heights of its trees, if the lexer has made
its tokens. Several parts in one literal are not all text, so the literal costs something too. -/
def Low : Phrase → List TokenKind → Nat → Prop
  | .expression value, kinds, size | .sum value, kinds, size | .operand value, kinds, size
  | .target value, kinds, size => (∀ kind ∈ kinds, kind.Lexical) → value.height ≤ size + 1
  | .call _ arguments, kinds, size =>
      (∀ kind ∈ kinds, kind.Lexical) → Expr.heightOfAll arguments ≤ size
  | .arguments values, kinds, size =>
      (∀ kind ∈ kinds, kind.Lexical) → Expr.heightOfAll values ≤ size + 1
  | .parts values, kinds, size => ∀ fragments, kinds = [.literal fragments] →
      Expr.heightOfAll values ≤ max size 1 ∧ values.length = fragments.length ∧
        (size = 0 → ∀ fragment ∈ fragments, fragment.isText)

/-- Two fragments that stand next to each other in a literal are not both text. -/
theorem not_all_isText {fragments : List Fragment} (lexical : (TokenKind.literal fragments).Lexical)
    (plural : fragments.length ≠ 1) : ¬ ∀ fragment ∈ fragments, fragment.isText := by
  intro allText
  rcases lexical with rfl | ⟨some, -, apart⟩
  · exact plural rfl
  · match fragments, some, plural, apart, allText with
    | first :: second :: others, _, _, apart, allText =>
        have isolated := (List.isChain_cons_cons.mp apart).1
        exact isolated ⟨allText first (by simp), allText second (by simp)⟩

/-- The height of a tree is bounded by what was spent to read it. -/
theorem low_of_derives {phrase : Phrase} {kinds : List TokenKind} {size : Nat}
    (derivation : Derives phrase kinds size) : Low phrase kinds size := by
  induction derivation with
  | sum _ ih | operand _ ih => exact ih
  | compare _ _ _ first second | join _ _ _ first second =>
      intro lexical
      simp only [List.forall_mem_append, List.forall_mem_cons] at lexical
      have left := first lexical.1
      have right := second lexical.2.2
      simp only [Expr.height]
      omega
  | called _ ih | targetCall _ ih =>
      intro lexical
      have arguments := ih lexical
      simp only [Expr.height]
      omega
  | referred _ ih | group _ ih =>
      intro lexical
      have inner := ih fun kind member => lexical kind (by simp [member])
      omega
  | single _ ih =>
      intro _
      have inner := (ih _ rfl).1
      simp only [Expr.heightOfAll] at inner
      omega
  | several plural _ ih =>
      intro lexical
      obtain ⟨inner, lengths, allText⟩ := ih _ rfl
      have mixed := not_all_isText (lexical _ (List.mem_singleton_self _)) (lengths ▸ plural)
      have costly := mt allText mixed
      simp only [Expr.height]
      omega
  | call _ ih =>
      intro lexical
      exact ih fun kind member => lexical kind (by simp [member])
  | lastArgument _ ih =>
      intro lexical
      simpa [Expr.heightOfAll] using ih lexical
  | argument _ _ first further =>
      intro lexical
      simp only [List.forall_mem_append, List.forall_mem_cons] at lexical
      have head := first lexical.1
      have others := further lexical.2.2
      simp only [Expr.heightOfAll]
      omega
  | noPart =>
      rintro _ ⟨⟩
      simp [Expr.heightOfAll]
  | textPart content _ ih =>
      rintro _ ⟨⟩
      obtain ⟨others, lengths, allText⟩ := ih _ rfl
      refine ⟨?_, by simp [lengths], fun free => ?_⟩
      · simp only [Expr.heightOfAll, Expr.height]
        omega
      · exact List.forall_mem_cons.mpr ⟨rfl, allText free⟩
  | referencePart _ _ first further =>
      rintro _ ⟨⟩
      obtain ⟨others, lengths, -⟩ := further _ rfl
      have head := first fun kind member => lexical_of_mem_tokenize member
      refine ⟨?_, by simp [lengths], by omega⟩
      simp only [Expr.heightOfAll]
      omega
  | _ => simp [Low, Expr.height, Expr.heightOfAll]

/-- What a statement holds can be printed and read again within the budget. -/
theorem FormsValue.printedSize_le {tokens : List Token} {value : Expr}
    (forms : FormsValue tokens value) : value.printedSize ≤ 256 := by
  obtain ⟨size, within, derivation⟩ := forms
  exact Nat.le_trans (affordable_of_derives derivation) within

/-- No expression of a statement is higher than the budget and one more allow. -/
theorem FormsValue.height_le {tokens : List Token} {value : Expr}
    (forms : FormsValue tokens value) (lexical : ∀ token ∈ tokens, token.kind.Lexical) :
    value.height ≤ 257 := by
  obtain ⟨size, within, derivation⟩ := forms
  have low := low_of_derives derivation (List.forall_mem_map.mpr lexical)
  omega

/-- A reference refers to a name or to a call. -/
theorem Derives.target_eq {value : Expr} {kinds : List TokenKind} {size : Nat}
    (derivation : Derives (.target value) kinds size) :
    (∃ name, value = .reference name) ∨ ∃ function arguments, value = .call function arguments := by
  cases derivation with
  | name name => exact .inl ⟨name, rfl⟩
  | position position => exact .inl ⟨position.repr, rfl⟩
  | targetCall _ => exact .inr ⟨_, _, rfl⟩

/-- A part of a template is as bounded as an expression of a script. -/
theorem templatePart_bounded (fragment : Fragment) :
    (templatePart fragment).nodeCount ≤ 256 ∧ (templatePart fragment).height ≤ 257 := by
  cases fragment with
  | text content => exact ⟨Nat.zero_le _, Nat.succ_le_succ (Nat.zero_le _)⟩
  | reference body =>
      simp only [templatePart]
      split
      · rename_i value counted read
        obtain ⟨size, derivation, counts, within⟩ :=
          embedded_derives (faithful_expressionAt _) read
        have small : size ≤ 256 := by
          have room := within (Nat.zero_le _)
          rw [counts, Nat.zero_add] at room
          exact room
        have low := low_of_derives derivation fun kind member => lexical_of_mem_tokenize member
        refine ⟨?_, by omega⟩
        obtain ⟨affordable, -⟩ := affordable_of_derives derivation
        have counted := value.nodeCount_le_printedSize
        rcases derivation.target_eq with ⟨name, rfl⟩ | ⟨function, arguments, rfl⟩
        · exact Nat.succ_le_succ (Nat.zero_le _)
        · simp only [Expr.isCall, Bool.toNat_true] at affordable
          omega
      · exact ⟨Nat.zero_le _, Nat.succ_le_succ (Nat.zero_le _)⟩

theorem Expr.heightOfAll_le {exprs : List Expr} {bound : Nat}
    (each : ∀ expr ∈ exprs, expr.height ≤ bound) : heightOfAll exprs ≤ bound := by
  induction exprs with
  | nil => exact Nat.zero_le _
  | cons expr exprs ih =>
      simp only [List.forall_mem_cons] at each
      exact Nat.max_le.mpr ⟨each.1, ih each.2⟩

theorem strands_joinParts {parts : List Expr} (plain : ∀ part ∈ parts, part.strands = [part]) :
    (joinParts parts).strands = parts := by
  unfold joinParts
  split
  · exact plain _ (List.mem_singleton_self _)
  · rfl

theorem height_joinParts {parts : List Expr} {bound : Nat}
    (each : ∀ part ∈ parts, part.height ≤ bound) : (joinParts parts).height ≤ bound + 1 := by
  unfold joinParts
  split
  · exact Nat.le_succ_of_le (each _ (List.mem_singleton_self _))
  · exact Nat.succ_le_succ (Expr.heightOfAll_le each)

/-- A part of a template is a single strand. -/
theorem strands_templatePart (fragment : Fragment) :
    (templatePart fragment).strands = [templatePart fragment] := by
  cases fragment with
  | text content => rfl
  | reference body =>
      simp only [templatePart]
      split
      · rename_i read
        obtain ⟨size, derivation, -⟩ := embedded_derives (faithful_expressionAt _) read
        rcases derivation.target_eq with ⟨name, rfl⟩ | ⟨function, arguments, rfl⟩ <;> rfl
      · rfl

/-- Each part of a template has a budget of its own, so only the parts are bounded in size, while
the height of the whole is. -/
theorem templateValue_bounded (source : String) :
    (templateValue source).height ≤ 258 ∧
      ∀ part ∈ (templateValue source).strands, part.nodeCount ≤ 256 := by
  unfold templateValue
  split
  · exact ⟨by simp [Expr.height],
      by simp [Expr.strands, Expr.nodeCount, Expr.subterms, Expr.isNode]⟩
  · rw [strands_joinParts (List.forall_mem_map.mpr fun fragment _ => strands_templatePart fragment)]
    constructor
    · refine height_joinParts (List.forall_mem_map.mpr fun fragment _ => ?_)
      exact (templatePart_bounded fragment).2
    · exact List.forall_mem_map.mpr fun fragment _ => (templatePart_bounded fragment).1

/-- In every program that was parsed, an expression has at most 256 operations, calls and
references and at most 257 levels. In every template, the same number holds for each single
reference, and there are at most 258 levels. -/
theorem Program.trees_bounded :
    (∀ limit source program, Program.parse limit source = .ok program →
      ∀ statement ∈ program.allStatements,
        statement.value.nodeCount ≤ 256 ∧ statement.value.height ≤ 257) ∧
    ∀ source, ∀ statement ∈ (Program.ofTemplate source).allStatements,
      statement.value.height ≤ 258 ∧ ∀ part ∈ statement.value.strands, part.nodeCount ≤ 256 := by
  constructor
  · intro limit source program parsed statement member
    obtain ⟨⟨tokens, inside, forms⟩, -⟩ := among_of_parse parsed statement member
    have lexical : ∀ token ∈ tokens, token.kind.Lexical :=
      fun token present => lexical_of_mem_tokensFrom (inside present)
    have counted := Nat.le_trans statement.value.nodeCount_le_printedSize forms.printedSize_le
    exact ⟨counted, forms.height_le lexical⟩
  · intro source statement member
    simp only [Program.allStatements, Program.ofTemplate, blockStatements,
      Statement.substatements, List.append_nil, List.mem_singleton] at member
    subst member
    exact templateValue_bounded source

theorem Program.trees_bounded_nested :
    ∃ program, Program.parse 1 "when $(a) + f(1) == 'x $(g(2))' then end" = .ok program ∧
      program.render = "when $(a) + f(1) == \"x $(g(2))\" then\nend\n" ∧
      ∀ statement ∈ program.allStatements,
        statement.value.nodeCount ≤ 256 ∧ statement.value.height ≤ 257 := by
  have accepted : (Program.parse 1 "when $(a) + f(1) == 'x $(g(2))' then end").toOption.map
      Program.render = some "when $(a) + f(1) == \"x $(g(2))\" then\nend\n" := by
    decide +kernel
  obtain ⟨program, parsed, printed⟩ := Program.exists_parse_of_render accepted
  exact ⟨program, parsed, printed, Program.trees_bounded.1 _ _ program parsed⟩

end ChatScript
