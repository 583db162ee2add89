import ChatScript.Proofs.Budget
import ChatScript.Proofs.Quoting

/-! # The tokens of canonical text

`Expr.kinds` lists the tokens that printing an expression writes. They derive the expression, at
the cost of its printed size (`derives_kinds`), and they are what the lexer finds in the canonical
text (`kindsOf_render`). The second is only true if the calls inside of string literals can be read
again (`Expr.Rescans`): the reader of a reference body knows about quotes, but not about the
literals that stand inside of other literals.
-/

namespace ChatScript

namespace Expr

/-- The fragment that a part of a string literal is printed as. -/
def fragment : Expr → Fragment
  | .literal value => .text value.toText
  | .reference name => .reference name
  | part => .reference part.render

/-- The calls inside of a string literal are closed by the parentheses written for them. -/
def ClosesParts : Expr → Prop
  | .interpolated parts => ∀ part ∈ parts, part.isCall →
      readBody 0 none (part.render.toList ++ [')']) = some (part.render.toList, [])
  | _ => True

/-- The canonical text of an expression is read again as it was written. -/
def Rescans (expr : Expr) : Prop :=
  ∀ sub ∈ expr.subterms, sub.ClosesParts

theorem rescans_call {function : String} {arguments : List Expr} :
    (call function arguments).Rescans ↔ ∀ argument ∈ arguments, argument.Rescans :=
  forall_mem_subterms_call.trans ⟨fun both => both.2, fun each => ⟨trivial, each⟩⟩

/-- The text of an interpolated literal is read again if its own calls are closed and the text of
its parts is. -/
theorem rescans_interpolated {parts : List Expr} :
    (interpolated parts).Rescans ↔
      (interpolated parts).ClosesParts ∧ ∀ part ∈ parts, part.Rescans :=
  forall_mem_subterms_interpolated

theorem rescans_binary {op : BinaryOp} {left right : Expr} :
    (binary op left right).Rescans ↔ left.Rescans ∧ right.Rescans :=
  forall_mem_subterms_binary.trans ⟨fun both => both.2, fun each => ⟨trivial, each⟩⟩

end Expr

/-- The token of a reference's name, which is a position if it is not the name of something. -/
def targetKind (name : String) : TokenKind :=
  if isName name then .identifier name else digitsKind name.toList

/-- The tokens of a group, if parentheses are needed. -/
def grouped (needed : Bool) (kinds : List TokenKind) : List TokenKind :=
  if needed then .openParen :: kinds ++ [.closeParen] else kinds

mutual

/-- The tokens that the canonical text of an expression consists of. -/
def Expr.kinds : Expr → List TokenKind
  | .literal (.text content) => [.literal [.text content]]
  | .literal (.number value) =>
    if value < 0 then [.operator .minus, .number value.natAbs] else [.number value.natAbs]
  | .literal (.boolean flag) => [.boolean flag]
  | .named name => [.identifier name]
  | .reference name => [.dollar, .openParen, targetKind name, .closeParen]
  | .call function arguments =>
    .identifier function :: .openParen :: (argumentKinds arguments ++ [.closeParen])
  | .interpolated parts => [.literal (parts.map Expr.fragment)]
  | .binary op left right =>
    grouped (leftNeedsParens op left) left.kinds ++
      .operator op.mark :: grouped (rightNeedsParens op right) right.kinds

/-- The tokens of the arguments of a call, with commas between them. -/
def argumentKinds : List Expr → List TokenKind
  | [] => []
  | [expr] => expr.kinds
  | expr :: exprs => expr.kinds ++ .comma :: argumentKinds exprs

end

theorem argumentKinds_cons_cons (first second : Expr) (others : List Expr) :
    argumentKinds (first :: second :: others) =
      first.kinds ++ .comma :: argumentKinds (second :: others) := by
  rw [argumentKinds]
  simp

/-! ## Derivations -/

theorem BinaryOp.additiveMark {op : BinaryOp} (additive : op.isComparison = false) :
    AdditiveMark op.mark op := by
  cases op with
  | add => exact .plus
  | subtract => exact .minus
  | _ => simp [isComparison] at additive

theorem BinaryOp.comparisonMark {op : BinaryOp} (compares : op.isComparison = true) :
    ComparisonMark op.mark op := by
  cases op with
  | add | subtract => simp [isComparison] at compares
  | equal => exact .equal
  | notEqual => exact .notEqual
  | less => exact .less
  | lessEqual => exact .lessEqual
  | greater => exact .greater
  | greaterEqual => exact .greaterEqual

/-- No number is a name. -/
theorem isName_repr (value : Nat) : isName value.repr = false := by
  by_contra valid
  obtain ⟨⟨c, cs, spelled, starts, -⟩, -⟩ := isName_iff.mp (by simpa using valid)
  have member : c ∈ value.repr.toList := by
    rw [spelled]
    exact List.mem_cons_self ..
  have digit := Text.isDigit_of_mem_repr member
  rw [not_isDigit_of_isWordStart starts] at digit
  exact Bool.false_ne_true digit

/-- The token of a reference's name derives the reference. -/
theorem derives_targetKind {name : String} (regular : (Expr.reference name).Regular) :
    Derives (.target (.reference name)) [targetKind name] 0 := by
  unfold targetKind
  split
  · exact .name name
  · rename_i invalid
    obtain valid | ⟨position, small, rfl⟩ := regular
    · exact absurd valid invalid
    · rw [digitsKind_repr small]
      exact .position position

/-- The canonical tokens derive an expression as tightly as its outermost operation allows. -/
structure Canonical (expr : Expr) : Prop where
  expression : Derives (.expression expr) expr.kinds expr.printedSize
  sum : expr.isComparison = false → Derives (.sum expr) expr.kinds expr.printedSize
  operand : expr.isBinary = false → Derives (.operand expr) expr.kinds expr.printedSize
  target : expr.isCall → Derives (.target expr) expr.kinds expr.printedSize

/-- It is enough for an operand that it can be derived as one. -/
theorem Canonical.ofOperand {expr : Expr} (isOperand : expr.isCall = false)
    (derivation : Derives (.operand expr) expr.kinds expr.printedSize) : Canonical expr where
  expression := .sum (.operand derivation)
  sum _ := .operand derivation
  operand _ := derivation
  target isCall := absurd isCall (by simp [isOperand])

/-- With parentheses where it is a comparison, an expression can stand as a sum. -/
theorem Canonical.grouped_sum {expr : Expr} (canonical : Canonical expr) :
    Derives (.sum expr) (grouped expr.isComparison expr.kinds)
      (expr.printedSize + expr.isComparison.toNat) := by
  cases compares : expr.isComparison with
  | false => exact canonical.sum compares
  | true => exact .operand (.group canonical.expression)

/-- With parentheses where it is an operation, an expression can stand as an operand. -/
theorem Canonical.grouped_operand {expr : Expr} (canonical : Canonical expr) :
    Derives (.operand expr) (grouped expr.isBinary expr.kinds)
      (expr.printedSize + expr.isBinary.toNat) := by
  cases operates : expr.isBinary with
  | false => exact canonical.operand operates
  | true => exact .group canonical.expression

/-- Operations can be derived from their canonical tokens, with the groups that printing adds. -/
theorem canonical_binary {op : BinaryOp} {left right : Expr} (first : Canonical left)
    (second : Canonical right) : Canonical (.binary op left right) := by
  cases compares : op.isComparison with
  | false =>
      have isMark := BinaryOp.additiveMark compares
      have derivation : Derives (.sum (.binary op left right)) (Expr.kinds (.binary op left right))
          (Expr.printedSize (.binary op left right)) := by
        rw [Expr.kinds, Expr.printedSize_binary, leftNeedsParens_eq, isMark.rightNeedsParens_eq]
        have joined := Derives.join isMark first.grouped_sum second.grouped_operand
        convert joined using 1
        omega
      exact ⟨.sum derivation, fun _ => derivation, by simp [Expr.isBinary], by simp [Expr.isCall]⟩
  | true =>
      have isMark := BinaryOp.comparisonMark compares
      refine ⟨?_, by simp [Expr.isComparison, compares], by simp [Expr.isBinary],
        by simp [Expr.isCall]⟩
      rw [Expr.kinds, Expr.printedSize_binary, leftNeedsParens_eq, isMark.rightNeedsParens_eq]
      have compared := Derives.compare isMark first.grouped_sum second.grouped_sum
      convert compared using 1
      omega

/-- Arguments can be derived from their tokens and the commas between them. -/
theorem derives_argumentKinds {arguments : List Expr} (some : arguments ≠ [])
    (each : ∀ argument ∈ arguments, Canonical argument) :
    Derives (.arguments arguments) (argumentKinds arguments)
      (arguments.map Expr.printedSize).sum := by
  induction arguments with
  | nil => exact absurd rfl some
  | cons argument arguments ih =>
      rw [List.forall_mem_cons] at each
      cases arguments with
      | nil =>
          rw [argumentKinds, List.map_singleton, List.sum_singleton]
          exact .lastArgument each.1.expression
      | cons next arguments =>
          rw [argumentKinds_cons_cons, List.map_cons, List.sum_cons]
          exact .argument each.1.expression (ih (by simp) each.2)

/-- Calls can be derived from their canonical tokens. -/
theorem canonical_call {function : String} {arguments : List Expr}
    (each : ∀ argument ∈ arguments, Canonical argument) : Canonical (.call function arguments) := by
  have derivation : Derives (.call function arguments) (Expr.kinds (.call function arguments))
      (Expr.printedSize (.call function arguments)) := by
    rw [Expr.kinds, Expr.printedSize_call]
    cases arguments with
    | nil => exact .emptyCall function
    | cons argument arguments => exact .call (derives_argumentKinds (by simp) each)
  exact ⟨.sum (.operand (.called derivation)), fun _ => .operand (.called derivation),
    fun _ => .called derivation, fun _ => .targetCall derivation⟩

/-! ## Texts -/

/-- The parts of a literal are printed as their fragments. -/
theorem toList_renderParts (parts : List Expr) :
    (renderParts parts).toList = (parts.map Expr.fragment).flatMap Fragment.written := by
  induction parts with
  | nil => rfl
  | cons part parts ih =>
      cases part <;> simp [renderParts, Expr.fragment, Fragment.written, ih]

/-- A call is printed as its name and its arguments in parentheses. -/
theorem toList_render_call (function : String) (arguments : List Expr) :
    (Expr.call function arguments).render.toList = function.toList ++ '(' ::
      ((String.intercalate ", " (arguments.map Expr.render)).toList ++ [')']) := by
  simp [Expr.render]

theorem toList_render_interpolated (parts : List Expr) :
    (Expr.interpolated parts).render.toList =
      '"' :: ((parts.map Expr.fragment).flatMap Fragment.written ++ ['"']) := by
  rw [Expr.render, toList_inQuotes, toList_renderParts]

/-- Text is printed as a single fragment in quotes. -/
theorem toList_render_text (content : String) :
    (Expr.literal (.text content)).render.toList =
      '"' :: ([Fragment.text content].flatMap Fragment.written ++ ['"']) := by
  simp [Expr.render, Fragment.written]

theorem toList_inParens (needed : Bool) (content : String) :
    (inParens needed content).toList =
      if needed then '(' :: (content.toList ++ [')']) else content.toList := by
  cases needed <;> simp [inParens]

/-- An operation is printed as its symbol between its operands, which are put into parentheses if
need be. -/
theorem toList_render_binary (op : BinaryOp) (left right : Expr) :
    (Expr.binary op left right).render.toList =
      (inParens (leftNeedsParens op left) left.render).toList ++ ' ' :: (op.symbol.toList ++ ' ' ::
        (inParens (rightNeedsParens op right) right.render).toList) := by
  simp [Expr.render]

theorem toList_intercalate_cons (text next : String) (texts : List String) :
    (String.intercalate ", " (text :: next :: texts)).toList =
      text.toList ++ ',' :: ' ' :: (String.intercalate ", " (next :: texts)).toList := by
  simp [String.toList_intercalate]

/-- The tokens of an expression are found in its canonical text, as long as the text after it does
not continue its last word. -/
def Legible (expr : Expr) : Prop :=
  ∀ rest, EndsWord rest → kindsOf (expr.render.toList ++ rest) = expr.kinds ++ kindsOf rest

/-- The tokens of arguments are found in their printed list. -/
theorem kindsOf_arguments {arguments : List Expr} (each : ∀ argument ∈ arguments, Legible argument)
    {rest : List Char} (ends : EndsWord rest) :
    kindsOf ((String.intercalate ", " (arguments.map Expr.render)).toList ++ rest) =
      argumentKinds arguments ++ kindsOf rest := by
  induction arguments with
  | nil => simp [argumentKinds]
  | cons argument arguments ih =>
      rw [List.forall_mem_cons] at each
      cases arguments with
      | nil =>
          simp only [List.map_cons, List.map_nil, String.intercalate_singleton, argumentKinds]
          exact each.1 rest ends
      | cons next arguments =>
          rw [List.map_cons, List.map_cons, toList_intercalate_cons, List.append_assoc,
            List.cons_append, List.cons_append, each.1 _ (endsWord_cons ',' (by decide) _),
            kindsOf_comma, kindsOf_space, ← List.map_cons, ih each.2, argumentKinds_cons_cons,
            List.append_assoc, List.cons_append]

/-- The tokens of a call are found in its text if those of its arguments are. -/
theorem legible_call {function : String} (valid : isName function) {arguments : List Expr}
    (each : ∀ argument ∈ arguments, Legible argument) : Legible (.call function arguments) := by
  intro rest _
  rw [toList_render_call, List.append_assoc, List.cons_append, List.append_assoc,
    List.singleton_append, kindsOf_name valid (endsWord_cons '(' (by decide) _), kindsOf_openParen,
    kindsOf_arguments each (endsWord_cons ')' (by decide) _), kindsOf_closeParen, Expr.kinds]
  simp

/-- The tokens of a group are found in its text. -/
theorem kindsOf_inParens {expr : Expr} (legible : Legible expr) (needed : Bool) {rest : List Char}
    (ends : EndsWord rest) :
    kindsOf ((inParens needed expr.render).toList ++ rest) =
      grouped needed expr.kinds ++ kindsOf rest := by
  rw [toList_inParens]
  cases needed with
  | false => exact legible rest ends
  | true =>
      simp only [↓reduceIte, List.cons_append, List.append_assoc, List.nil_append,
        kindsOf_openParen, legible _ (endsWord_cons ')' (by decide) _), kindsOf_closeParen, grouped]

/-- The tokens of an operation are found in its text if those of its operands are. -/
theorem legible_binary {op : BinaryOp} {left right : Expr} (first : Legible left)
    (second : Legible right) : Legible (.binary op left right) := by
  intro rest ends
  rw [toList_render_binary, List.append_assoc, List.cons_append, List.append_assoc,
    List.cons_append, kindsOf_inParens first _ (endsWord_cons ' ' (by decide) _), kindsOf_space,
    kindsOf_symbol, kindsOf_inParens second _ ends, Expr.kinds, List.append_assoc,
    List.cons_append]

/-- A reference's name is a single token. -/
theorem kindsOf_target {name : String} (regular : (Expr.reference name).Regular)
    {rest : List Char} (ends : EndsWord rest) :
    kindsOf (name.toList ++ rest) = targetKind name :: kindsOf rest := by
  unfold targetKind
  obtain valid | ⟨position, small, rfl⟩ := regular
  · rw [kindsOf_name valid ends, if_pos valid]
  · rw [kindsOf_number small ends, if_neg (by simp [isName_repr]), digitsKind_repr small]

/-- The tokens of a reference are found in its text. -/
theorem legible_reference {name : String} (regular : (Expr.reference name).Regular) :
    Legible (.reference name) := by
  intro rest _
  have spelled : (Expr.reference name).render.toList ++ rest =
      '$' :: '(' :: (name.toList ++ ')' :: rest) := by
    simp [Expr.render]
  rw [spelled, kindsOf_dollar, kindsOf_openParen,
    kindsOf_target regular (endsWord_cons ')' (by decide) _), kindsOf_closeParen, Expr.kinds]
  rfl

/-- The tokens of a number are found in its text, which starts with a minus sign if the number is
negative. -/
theorem legible_number {value : Int} (regular : (Expr.literal (.number value)).Regular) :
    Legible (.literal (.number value)) := by
  intro rest ends
  have small : value.natAbs ≤ Text.maxNumber.toNat := by
    simp only [Expr.Regular, Text.minNumber, Text.maxNumber] at regular ⊢
    omega
  rw [Expr.render, Value.toText, Int.repr_eq_if, Expr.kinds]
  · by_cases negative : value < 0
    · have positive : (-value).toNat = value.natAbs := by omega
      rw [if_neg (by omega), if_pos negative, positive, String.toList_append, List.append_assoc]
      exact (kindsOf_minus _).trans (congrArg _ (kindsOf_number small ends))
    · have same : value.toNat = value.natAbs := by omega
      rw [if_pos (by omega), if_neg negative, same]
      exact kindsOf_number small ends
  · simp

theorem legible_boolean (flag : Bool) : Legible (.literal (.boolean flag)) := by
  intro rest ends
  have spelled : ∀ word, word ∈ ["true", "false"] →
      kindsOf (word.toList ++ rest) = wordKind word :: kindsOf rest := by
    intro word member
    simp only [List.mem_cons, List.not_mem_nil, or_false] at member
    rcases member with rfl | rfl
    · exact kindsOf_word rfl (by decide) (by decide) ends
    · exact kindsOf_word rfl (by decide) (by decide) ends
  cases flag with
  | false => exact spelled "false" (by simp)
  | true => exact spelled "true" (by simp)

/-- Whatever is printed as closed fragments in quotes is a single token. -/
theorem legible_quoted {expr : Expr} {fragments : List Fragment}
    (printed : expr.render.toList = '"' :: (fragments.flatMap Fragment.written ++ ['"']))
    (kinds : expr.kinds = [.literal fragments]) (lexical : (TokenKind.literal fragments).Lexical)
    (closed : ∀ fragment ∈ fragments, fragment.Closed) : Legible expr := by
  intro rest _
  rw [printed, kinds, List.cons_append, List.append_assoc, List.singleton_append,
    kindsOf_quoted lexical closed, List.singleton_append]

theorem legible_text (content : String) : Legible (.literal (.text content)) := by
  apply legible_quoted (toList_render_text content) rfl (lexical_text content)
  simp [Fragment.Closed]

theorem isText_fragment (part : Expr) : part.fragment.isText = part.isLiteral := by
  cases part <;> rfl

/-- The fragments of an interpolated literal are ones that the lexer can make. -/
theorem lexical_fragments {parts : List Expr} (regular : (Expr.interpolated parts).Regular) :
    parts.map Expr.fragment ≠ [] ∧ Separated (parts.map Expr.fragment) := by
  obtain ⟨plural, each, apart⟩ := regular
  refine ⟨?_, ?_, ?_⟩
  · intro empty
    rw [List.map_eq_nil_iff.mp empty] at plural
    simp at plural
  · intro content member
    obtain ⟨part, inside, isText⟩ := List.mem_map.mp member
    have isPart := each part inside
    cases part with
    | literal value =>
        cases value with
        | text other =>
            simp only [Expr.fragment, Value.toText, Fragment.text.injEq] at isText
            subst isText
            simpa [Expr.isPart] using isPart
        | number other | boolean other => simp [Expr.isPart] at isPart
    | _ => simp [Expr.fragment] at isText
  · rw [List.isChain_map]
    simpa only [isText_fragment] using apart

theorem all_isOrdinary_name {name : String} (valid : isName name) :
    name.toList.all isOrdinary := by
  obtain ⟨⟨c, cs, spelled, starts, goesOn⟩, -⟩ := isName_iff.mp valid
  rw [spelled, List.all_cons, isOrdinary_of_isWordChar (isWordChar_of_isWordStart starts),
    Bool.true_and, List.all_eq_true]
  exact fun d member => isOrdinary_of_isWordChar (goesOn d member)

theorem all_isOrdinary_repr (value : Nat) : value.repr.toList.all isOrdinary := by
  rw [List.all_eq_true]
  intro c member
  exact isOrdinary_of_isWordChar (isWordChar_of_isDigit (Text.isDigit_of_mem_repr member))

theorem all_isOrdinary_reference {name : String} (regular : (Expr.reference name).Regular) :
    name.toList.all isOrdinary := by
  obtain valid | ⟨position, -, rfl⟩ := regular
  · exact all_isOrdinary_name valid
  · exact all_isOrdinary_repr position

/-- The fragment of a text or of a reference is always closed. -/
theorem closed_fragment {part : Expr} (isPart : part.isPart) (normal : part.Normal)
    (closes : part.isCall →
      readBody 0 none (part.render.toList ++ [')']) = some (part.render.toList, [])) :
    part.fragment.Closed := by
  cases part with
  | literal value => trivial
  | reference name =>
      have ordinary := all_isOrdinary_reference normal.regular
      simp [Expr.fragment, Fragment.Closed, readBody_ordinary ordinary, readBody, readBefore]
  | call function arguments => exact closes rfl
  | named name | interpolated parts | binary op left right => simp [Expr.isPart] at isPart

/-- The token of an interpolated literal is found in its text if its calls are closed. -/
theorem legible_interpolated {parts : List Expr} (normal : (Expr.interpolated parts).Normal)
    (closes : (Expr.interpolated parts).ClosesParts) : Legible (.interpolated parts) := by
  rw [Expr.normal_interpolated] at normal
  obtain ⟨regular, each⟩ := normal
  apply legible_quoted (toList_render_interpolated parts) rfl (.inr (lexical_fragments regular))
  intro fragment member
  obtain ⟨part, inside, rfl⟩ := List.mem_map.mp member
  exact closed_fragment (regular.2.1 part inside) (each part inside) (closes part inside)

/-- The tokens of canonical text are the tokens that were written. -/
theorem kindsOf_render {expr : Expr} (normal : expr.Normal) (rescans : expr.Rescans) :
    Legible expr := by
  induction expr with
  | literal value =>
      cases value with
      | text content => exact legible_text content
      | number value => exact legible_number normal.regular
      | boolean flag => exact legible_boolean flag
  | named name => exact fun rest ends => kindsOf_name (Expr.normal_named.mp normal) ends
  | reference name => exact legible_reference normal.regular
  | call function arguments ih =>
      rw [Expr.normal_call] at normal
      rw [Expr.rescans_call] at rescans
      apply legible_call normal.1
      intro argument member
      exact ih argument member (normal.2 argument member) (rescans argument member)
  | interpolated parts _ =>
      exact legible_interpolated normal (Expr.rescans_interpolated.mp rescans).1
  | binary op left right first second =>
      rw [Expr.normal_binary] at normal
      rw [Expr.rescans_binary] at rescans
      exact legible_binary (first normal.1 rescans.1) (second normal.2 rescans.2)

/-- Parts can be derived from their fragments, where calls are read again from their own text. -/
theorem derives_parts {parts : List Expr} (each : ∀ part ∈ parts, part.isPart ∧ part.Normal)
    (legible : ∀ part ∈ parts, part.isCall → Legible part ∧ Canonical part) :
    Derives (.parts parts) [.literal (parts.map Expr.fragment)]
      ((parts.map Expr.printedSize).sum + parts.countP Expr.isCall) := by
  induction parts with
  | nil => exact .noPart
  | cons part parts ih =>
      rw [List.forall_mem_cons] at each legible
      have others := ih each.2 legible.2
      rw [List.map_cons, List.map_cons, List.sum_cons, List.countP_cons]
      cases part with
      | literal value =>
          cases value with
          | text content =>
              rw [Expr.printedSize_literal, Nat.zero_add, if_neg (by simp [Expr.isCall])]
              exact .textPart content others
          | number value | boolean value => simp [Expr.isPart] at each
      | reference name =>
          have body : Derives (.target (.reference name)) ((tokenize name).map Token.kind) 0 := by
            have found := kindsOf_target each.1.2.regular endsWord_nil
            rw [List.append_nil, kindsOf_nil] at found
            rw [map_kind_tokenize, found]
            exact derives_targetKind each.1.2.regular
          rw [Expr.printedSize_reference, if_neg (by simp [Expr.isCall]), Nat.add_zero,
            Nat.add_assoc, ← Nat.zero_add 1]
          exact .referencePart body others
      | call function arguments =>
          obtain ⟨found, canonical⟩ := legible.1 rfl
          have body : Derives (.target (.call function arguments))
              ((tokenize (Expr.call function arguments).render).map Token.kind)
              (Expr.call function arguments).printedSize := by
            have whole := found [] endsWord_nil
            rw [List.append_nil, kindsOf_nil, List.append_nil] at whole
            rw [map_kind_tokenize, whole]
            exact canonical.target rfl
          have sizes : ∀ own others calls : Nat,
              own + others + (calls + 1) = own + 1 + (others + calls) := by
            omega
          rw [Expr.isCall, if_pos rfl, sizes]
          exact .referencePart body others
      | named name | interpolated parts | binary op left right => simp [Expr.isPart] at each

/-- Interpolated literals can be derived from their canonical token. -/
theorem canonical_interpolated {parts : List Expr} (normal : (Expr.interpolated parts).Normal)
    (rescans : (Expr.interpolated parts).Rescans)
    (each : ∀ part ∈ parts, Canonical part) : Canonical (.interpolated parts) := by
  rw [Expr.normal_interpolated] at normal
  rw [Expr.rescans_interpolated] at rescans
  apply Canonical.ofOperand rfl
  rw [Expr.kinds, Expr.printedSize_interpolated]
  apply Derives.several
  · have := normal.1.1
    omega
  · apply derives_parts
    · exact fun part member => ⟨normal.1.2.1 part member, normal.2 part member⟩
    · intro part member _
      exact ⟨kindsOf_render (normal.2 part member) (rescans.2 part member), each part member⟩

/-- The tokens of canonical text derive the expression, at the cost of its printed size. -/
theorem derives_kinds {expr : Expr} (normal : expr.Normal) (rescans : expr.Rescans) :
    Canonical expr := by
  induction expr with
  | literal value =>
      apply Canonical.ofOperand rfl
      cases value with
      | text content => exact .single (.textPart content .noPart)
      | number value =>
          rw [Expr.kinds, Expr.printedSize_literal]
          by_cases negative : value < 0
          · have same : value = -(value.natAbs : Int) := by omega
            rw [if_pos negative]
            nth_rewrite 1 [same]
            exact .negative value.natAbs
          · have same : value = (value.natAbs : Int) := by omega
            rw [if_neg negative]
            nth_rewrite 1 [same]
            exact .number value.natAbs
      | boolean flag => exact .boolean flag
  | named name => exact .ofOperand rfl (.named name)
  | reference name => exact .ofOperand rfl (.referred (derives_targetKind normal.regular))
  | call function arguments ih =>
      rw [Expr.normal_call] at normal
      rw [Expr.rescans_call] at rescans
      apply canonical_call
      intro argument member
      exact ih argument member (normal.2 argument member) (rescans argument member)
  | interpolated parts ih =>
      apply canonical_interpolated normal rescans
      intro part member
      exact ih part member ((Expr.normal_interpolated.mp normal).2 part member)
        ((Expr.rescans_interpolated.mp rescans).2 part member)
  | binary op left right first second =>
      rw [Expr.normal_binary] at normal
      rw [Expr.rescans_binary] at rescans
      exact canonical_binary (first normal.1 rescans.1) (second normal.2 rescans.2)

end ChatScript
