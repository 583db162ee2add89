import ChatScript.Proofs.Canonical

/-! # Printing and parsing again

A program is printed one statement per line. Reading the lines again gives the tokens that were
written (`kindsOf_renderBlock`), and these form the same statements on other lines
(`forms_of_kinds`). `parse_render` puts both together: a program in normal form is read again as it
was printed, if its calls inside of string literals are. That is so in particular if no literal
with references stands inside of another one (`rescans_of_shallow`).
-/

namespace ChatScript

mutual

/-- The tokens that the canonical text of a statement consists of, without the newline that ends
it. -/
def Statement.kinds : Statement → List TokenKind
  | .set name value _ => .keyword .set :: .identifier name :: value.kinds
  | .send value _ => .keyword .send :: value.kinds
  | .conditional condition thenBranch none _ =>
    .keyword .when :: (condition.kinds ++ .keyword .then :: .newline ::
      (blockKinds thenBranch ++ [.keyword .end]))
  | .conditional condition thenBranch (some elseBranch) _ =>
    .keyword .when :: (condition.kinds ++ .keyword .then :: .newline ::
      (blockKinds thenBranch ++ .keyword .else :: .newline ::
        (blockKinds elseBranch ++ [.keyword .end])))

/-- The tokens that the canonical text of a block consists of. -/
def blockKinds : List Statement → List TokenKind
  | [] => []
  | statement :: statements => statement.kinds ++ .newline :: blockKinds statements

end

/-! ## Lines -/

/-- A keyword is read as itself. -/
theorem kindsOf_keyword (word : Keyword) {rest : List Char} (ends : EndsWord rest) :
    kindsOf (word.spelling.toList ++ rest) = .keyword word :: kindsOf rest := by
  cases word <;> exact kindsOf_word rfl (by decide) (by decide) ends

/-- The spaces in front of a line leave no token. -/
theorem kindsOf_printedLine (depth : Nat) (content : String) (rest : List Char) :
    kindsOf ((printedLine depth content).toList ++ rest) =
      kindsOf (content.toList ++ '\n' :: rest) := by
  have spelled : (printedLine depth content).toList ++ rest =
      List.replicate (2 * depth) ' ' ++ (content.toList ++ '\n' :: rest) := by
    simp [printedLine, indent]
  rw [spelled, kindsOf_gaps (by simp [isGap])]

theorem kindsOf_keywordLine (depth : Nat) (word : Keyword) (rest : List Char) :
    kindsOf ((printedLine depth word.spelling).toList ++ rest) =
      .keyword word :: .newline :: kindsOf rest := by
  rw [kindsOf_printedLine, kindsOf_keyword word (endsWord_cons '\n' (by decide) _), kindsOf_newline]

theorem kindsOf_elseLine (depth : Nat) (rest : List Char) :
    kindsOf ((printedLine depth "else").toList ++ rest) =
      .keyword .else :: .newline :: kindsOf rest :=
  kindsOf_keywordLine depth .else rest

theorem kindsOf_endLine (depth : Nat) (rest : List Char) :
    kindsOf ((printedLine depth "end").toList ++ rest) =
      .keyword .end :: .newline :: kindsOf rest :=
  kindsOf_keywordLine depth .end rest

/-- A line that sets a variable begins with the keyword and the name. -/
theorem kindsOf_setLine (depth : Nat) {name : String} (valid : isName name) (value : Expr)
    (rest : List Char) :
    kindsOf ((printedLine depth ("set " ++ name ++ " " ++ value.render)).toList ++ rest) =
      .keyword .set :: .identifier name :: kindsOf (value.render.toList ++ '\n' :: rest) := by
  have spelled : ("set " ++ name ++ " " ++ value.render).toList ++ '\n' :: rest =
      Keyword.set.spelling.toList ++ ' ' :: (name.toList ++ ' ' ::
        (value.render.toList ++ '\n' :: rest)) := by
    simp [Keyword.spelling]
  rw [kindsOf_printedLine, spelled, kindsOf_keyword _ (endsWord_cons ' ' (by decide) _),
    kindsOf_space, kindsOf_name valid (endsWord_cons ' ' (by decide) _), kindsOf_space]

theorem kindsOf_sendLine (depth : Nat) (value : Expr) (rest : List Char) :
    kindsOf ((printedLine depth ("send " ++ value.render)).toList ++ rest) =
      .keyword .send :: kindsOf (value.render.toList ++ '\n' :: rest) := by
  have spelled : ("send " ++ value.render).toList ++ '\n' :: rest =
      Keyword.send.spelling.toList ++ ' ' :: (value.render.toList ++ '\n' :: rest) := by
    simp [Keyword.spelling]
  rw [kindsOf_printedLine, spelled, kindsOf_keyword _ (endsWord_cons ' ' (by decide) _),
    kindsOf_space]

/-- What follows a condition on its line, and the lines after it. -/
def thenLine (rest : List Char) : List Char :=
  ' ' :: (Keyword.then.spelling.toList ++ '\n' :: rest)

/-- A condition is followed by a keyword and a newline. -/
theorem kindsOf_thenLine (rest : List Char) :
    kindsOf (thenLine rest) = .keyword .then :: .newline :: kindsOf rest := by
  rw [thenLine, kindsOf_space, kindsOf_keyword _ (endsWord_cons '\n' (by decide) _),
    kindsOf_newline]

theorem endsWord_thenLine (rest : List Char) : EndsWord (thenLine rest) :=
  endsWord_cons ' ' (by decide) _

/-- The first line of a conditional begins with the keyword. -/
theorem kindsOf_whenLine (depth : Nat) (condition : Expr) (rest : List Char) :
    kindsOf ((printedLine depth ("when " ++ condition.render ++ " then")).toList ++ rest) =
      .keyword .when :: kindsOf (condition.render.toList ++ thenLine rest) := by
  have spelled : ("when " ++ condition.render ++ " then").toList ++ '\n' :: rest =
      Keyword.when.spelling.toList ++ ' ' :: (condition.render.toList ++ thenLine rest) := by
    simp [Keyword.spelling, thenLine]
  rw [kindsOf_printedLine, spelled, kindsOf_keyword _ (endsWord_cons ' ' (by decide) _),
    kindsOf_space]

/-- What is asked of a statement to be found on its line. -/
def Statement.Legible : Statement → Prop
  | .set name value _ => isName name ∧ ChatScript.Legible value
  | .send value _ | .conditional value _ _ _ => ChatScript.Legible value

/-- The lines of a block are read as they were written. -/
theorem kindsOf_renderBlock :
    (∀ statement : Statement, (∀ sub ∈ statement.substatements, sub.Legible) → ∀ depth rest,
      kindsOf ((statement.renderAt depth).toList ++ rest) =
        statement.kinds ++ .newline :: kindsOf rest) ∧
    ∀ statements, (∀ sub ∈ blockStatements statements, sub.Legible) → ∀ depth rest,
      kindsOf ((renderBlock depth statements).toList ++ rest) =
        blockKinds statements ++ kindsOf rest := by
  apply Statement.blockInduction
  case set =>
    intro name value line legible depth rest
    obtain ⟨valid, found⟩ := legible _ (List.mem_singleton_self _)
    rw [Statement.renderAt, kindsOf_setLine depth valid, found _ (endsWord_cons '\n' (by decide) _),
      kindsOf_newline, Statement.kinds, List.cons_append, List.cons_append]
  case send =>
    intro value line legible depth rest
    have found : Legible value := legible _ (List.mem_singleton_self _)
    rw [Statement.renderAt, kindsOf_sendLine, found _ (endsWord_cons '\n' (by decide) _),
      kindsOf_newline, Statement.kinds, List.cons_append]
  case conditional =>
    intro condition thenBranch line block legible depth rest
    rw [Statement.substatements, List.forall_mem_cons] at legible
    have found : Legible condition := legible.1
    rw [Statement.renderAt, String.toList_append, String.toList_append, List.append_assoc,
      List.append_assoc, kindsOf_whenLine, found _ (endsWord_thenLine _), kindsOf_thenLine,
      block legible.2, kindsOf_endLine,
      Statement.kinds]
    simp only [List.cons_append, List.append_assoc, List.nil_append]
  case alternative =>
    intro condition thenBranch elseBranch line first second legible depth rest
    rw [Statement.substatements, List.forall_mem_cons, List.forall_mem_append] at legible
    have found : Legible condition := legible.1
    rw [Statement.renderAt, String.toList_append, String.toList_append, String.toList_append,
      String.toList_append, List.append_assoc, List.append_assoc, List.append_assoc,
      List.append_assoc, kindsOf_whenLine, found _ (endsWord_thenLine _), kindsOf_thenLine,
      first legible.2.1, kindsOf_elseLine,
      second legible.2.2, kindsOf_endLine,
      Statement.kinds]
    simp only [List.cons_append, List.append_assoc, List.nil_append]
  case empty =>
    intro _ depth rest
    rfl
  case next =>
    intro statement statements first others legible depth rest
    rw [blockStatements, List.forall_mem_append] at legible
    rw [renderBlock, String.toList_append, List.append_assoc, first legible.1, others legible.2,
      blockKinds, List.append_assoc, List.cons_append]

/-! ## Forming the statements again -/

/-- The tokens of the expression of a statement derive it within the budget. -/
def Statement.Affords (statement : Statement) : Prop :=
  ∃ size ≤ 256, Derives (.expression statement.value) statement.value.kinds size

/-- Tokens like those of a statement's expression form the expression. -/
theorem Statement.Affords.formsValue {statement : Statement} (affords : statement.Affords)
    {tokens : List Token} (same : tokens.map Token.kind = statement.value.kinds) :
    FormsValue tokens statement.value := by
  obtain ⟨size, within, derivation⟩ := affords
  exact ⟨size, within, same ▸ derivation⟩

/-- Tokens like those of a statement form the statement again, apart from its lines. -/
theorem forms_of_kinds :
    (∀ statement : Statement, ∀ levels, statement.depth ≤ levels →
      (∀ sub ∈ statement.substatements, sub.Affords) →
      ∀ tokens, tokens.map Token.kind = statement.kinds →
        ∃ again, Forms levels (.statement again) tokens ∧ again.unlined = statement.unlined) ∧
    ∀ statements, ∀ levels, blockDepth statements ≤ levels →
      (∀ sub ∈ blockStatements statements, sub.Affords) →
      ∀ tokens, tokens.map Token.kind = blockKinds statements →
        ∃ again, Forms levels (.block again) tokens ∧
          blockUnlined again = blockUnlined statements := by
  apply Statement.blockInduction
  case set =>
    intro name value line levels _ affords tokens same
    rw [Statement.kinds] at same
    obtain ⟨keyword, tokens, rfl, isSet, same⟩ := List.map_eq_cons_iff.mp same
    obtain ⟨bound, tokens, rfl, isBound, same⟩ := List.map_eq_cons_iff.mp same
    have forms := (affords _ (List.mem_singleton_self _)).formsValue same
    exact ⟨_, .set isSet isBound forms, rfl⟩
  case send =>
    intro value line levels _ affords tokens same
    rw [Statement.kinds] at same
    obtain ⟨keyword, tokens, rfl, isSend, same⟩ := List.map_eq_cons_iff.mp same
    have forms := (affords _ (List.mem_singleton_self _)).formsValue same
    exact ⟨_, .send isSend forms, rfl⟩
  case conditional =>
    intro condition thenBranch line block levels deep affords tokens same
    rw [Statement.substatements, List.forall_mem_cons] at affords
    rw [Statement.kinds] at same
    obtain ⟨keyword, tokens, rfl, isWhen, same⟩ := List.map_eq_cons_iff.mp same
    obtain ⟨values, tokens, rfl, sameValue, same⟩ := List.map_eq_append_iff.mp same
    obtain ⟨opening, tokens, rfl, isThen, same⟩ := List.map_eq_cons_iff.mp same
    obtain ⟨separator, tokens, rfl, isNewline, same⟩ := List.map_eq_cons_iff.mp same
    obtain ⟨thens, tokens, rfl, sameThens, same⟩ := List.map_eq_append_iff.mp same
    obtain ⟨closing, rfl, isEnd⟩ := List.map_eq_singleton_iff.mp same
    obtain _ | levels := levels
    · simp [Statement.depth] at deep
    rw [Statement.depth] at deep
    obtain ⟨again, forms, unlined⟩ := block levels (by omega) affords.2 thens sameThens
    refine ⟨_, .conditional isWhen (affords.1.formsValue sameValue) isThen
      (.newline isNewline forms) isEnd, ?_⟩
    rw [Statement.unlined, Statement.unlined, unlined]
    rfl
  case alternative =>
    intro condition thenBranch elseBranch line first second levels deep affords tokens same
    rw [Statement.substatements, List.forall_mem_cons, List.forall_mem_append] at affords
    rw [Statement.kinds] at same
    obtain ⟨keyword, tokens, rfl, isWhen, same⟩ := List.map_eq_cons_iff.mp same
    obtain ⟨values, tokens, rfl, sameValue, same⟩ := List.map_eq_append_iff.mp same
    obtain ⟨opening, tokens, rfl, isThen, same⟩ := List.map_eq_cons_iff.mp same
    obtain ⟨separator, tokens, rfl, isNewline, same⟩ := List.map_eq_cons_iff.mp same
    obtain ⟨thens, tokens, rfl, sameThens, same⟩ := List.map_eq_append_iff.mp same
    obtain ⟨middle, tokens, rfl, isElse, same⟩ := List.map_eq_cons_iff.mp same
    obtain ⟨separator', tokens, rfl, isNewline', same⟩ := List.map_eq_cons_iff.mp same
    obtain ⟨elses, tokens, rfl, sameElses, same⟩ := List.map_eq_append_iff.mp same
    obtain ⟨closing, rfl, isEnd⟩ := List.map_eq_singleton_iff.mp same
    obtain _ | levels := levels
    · simp [Statement.depth] at deep
    rw [Statement.depth] at deep
    obtain ⟨thenAgain, thenForms, thenUnlined⟩ :=
      first levels (by omega) affords.2.1 thens sameThens
    obtain ⟨elseAgain, elseForms, elseUnlined⟩ :=
      second levels (by omega) affords.2.2 elses sameElses
    refine ⟨_, .alternative isWhen (affords.1.formsValue sameValue) isThen
      (.newline isNewline thenForms) isElse (.newline isNewline' elseForms) isEnd, ?_⟩
    rw [Statement.unlined, Statement.unlined, thenUnlined, elseUnlined]
    rfl
  case empty =>
    intro levels _ _ tokens same
    rw [blockKinds, List.map_eq_nil_iff] at same
    subst same
    exact ⟨[], .empty, rfl⟩
  case next =>
    intro statement statements first others levels deep affords tokens same
    rw [blockStatements, List.forall_mem_append] at affords
    rw [blockDepth] at deep
    rw [blockKinds] at same
    obtain ⟨front, tokens, rfl, sameFirst, same⟩ := List.map_eq_append_iff.mp same
    obtain ⟨separator, tokens, rfl, isNewline, sameOthers⟩ := List.map_eq_cons_iff.mp same
    obtain ⟨again, forms, unlined⟩ := first levels (by omega) affords.1 front sameFirst
    obtain ⟨othersAgain, othersForms, othersUnlined⟩ :=
      others levels (by omega) affords.2 tokens sameOthers
    refine ⟨again :: othersAgain, .next forms (.newline isNewline othersForms), ?_⟩
    rw [blockUnlined, blockUnlined, unlined, othersUnlined]

theorem Statement.Regular.normal {statement : Statement} (regular : statement.Regular) :
    statement.value.Normal := by
  cases statement with
  | set name value line => exact regular.2
  | conditional condition thenBranch elseBranch line => exact regular
  | send value line => exact regular

/-- The tokens of a regular statement are found on its lines if its expression is read again as it
was written. -/
theorem Statement.Regular.legible {statement : Statement} (regular : statement.Regular)
    (rescans : statement.value.Rescans) : statement.Legible := by
  have legible := kindsOf_render regular.normal rescans
  cases statement with
  | set name value line => exact ⟨regular.1, legible⟩
  | conditional condition thenBranch elseBranch line => exact legible
  | send value line => exact legible

/-- A block is empty without its lines only if it is empty. -/
theorem blockUnlined_eq_nil_iff {statements : List Statement} :
    blockUnlined statements = [] ↔ statements = [] := by
  cases statements <;> simp [blockUnlined]

/-- A program in normal form whose calls inside of string literals can be read again is read again
as it was printed, apart from its lines. -/
theorem parse_render {limit : Nat} {program : Program} (some : program.statements ≠ [])
    (regular : ∀ statement ∈ program.allStatements, statement.Regular)
    (rescans : ∀ statement ∈ program.allStatements, statement.value.Rescans)
    (deep : blockDepth program.statements ≤ limit)
    (small : ∀ statement ∈ program.allStatements, statement.value.printedSize ≤ 256) :
    ∃ again, Program.parse limit program.render = .ok again ∧
      again.unlined = program.unlined := by
  have legible : ∀ statement ∈ program.allStatements, statement.Legible :=
    fun statement member => (regular statement member).legible (rescans statement member)
  have affords : ∀ statement ∈ program.allStatements, statement.Affords := by
    intro statement member
    have canonical := derives_kinds (regular statement member).normal (rescans statement member)
    exact ⟨_, small statement member, canonical.expression⟩
  have kinds : (tokenize program.render).map Token.kind = blockKinds program.statements := by
    have whole := kindsOf_renderBlock.2 program.statements legible 0 []
    rw [List.append_nil, kindsOf_nil, List.append_nil] at whole
    exact whole
  obtain ⟨again, forms, unlined⟩ := forms_of_kinds.2 program.statements limit deep affords _ kinds
  refine ⟨⟨again⟩, Program.parse_eq_ok_iff_forms.mpr ⟨?_, forms⟩, ?_⟩
  · rwa [ne_eq, ← blockUnlined_eq_nil_iff, unlined, blockUnlined_eq_nil_iff]
  · rw [Program.unlined, Program.unlined, unlined]

/-! ## Calls without literals inside of literals -/

/-- The reader of a body passes over a text as a whole. -/
def Passes (cs : List Char) : Prop :=
  ∀ depth rest, readBody depth none (cs ++ rest) = readBefore cs (readBody depth none rest)

/-- Texts that are passed over can be put one behind the other. -/
theorem Passes.append {first second : List Char} (one : Passes first) (other : Passes second) :
    Passes (first ++ second) := by
  intro depth rest
  rw [List.append_assoc, one, other, readBefore_readBefore]

theorem passes_ordinary {cs : List Char} (ordinary : cs.all isOrdinary) : Passes cs :=
  fun depth rest => readBody_ordinary ordinary depth rest

/-- Parentheses that match are passed over with what is inside. -/
theorem Passes.inParens {cs : List Char} (passes : Passes cs) :
    Passes ('(' :: (cs ++ [')'])) := by
  intro depth rest
  have opening : ∀ rest, readBody depth none ('(' :: rest) =
      readBefore ['('] (readBody (depth + 1) none rest) := by
    intro rest
    rw [readBody.eq_def]
    simp
  have closing : readBody (depth + 1) none (')' :: rest) =
      readBefore [')'] (readBody depth none rest) := by
    rw [readBody.eq_def]
    simp
  rw [List.cons_append, opening, List.append_assoc, passes, List.singleton_append, closing,
    readBefore_readBefore, readBefore_readBefore]
  rfl

/-- Text in double quotes is passed over, whatever it says. -/
theorem passes_quoted (content : List Char) :
    Passes ('"' :: (content.flatMap escapeChar ++ ['"'])) := by
  intro depth rest
  rw [List.cons_append, List.append_assoc, List.singleton_append, readBody_text]

namespace Expr

/-- No literal with references stands anywhere in the expression. -/
def Plain (expr : Expr) : Prop :=
  ∀ sub ∈ expr.subterms, ∀ parts, sub ≠ .interpolated parts

/-- Inside of a literal with references, the arguments of the calls are plain. -/
def Shallow (expr : Expr) : Prop :=
  ∀ parts, .interpolated parts ∈ expr.subterms →
    ∀ function arguments, .call function arguments ∈ parts →
      ∀ argument ∈ arguments, argument.Plain

end Expr

theorem passes_int (value : Int) : Passes value.repr.toList := by
  rw [Int.repr_eq_if]
  split
  · exact passes_ordinary (all_isOrdinary_repr _)
  · have minus : Passes ['-'] := passes_ordinary (by decide)
    rw [String.toList_append]
    exact minus.append (passes_ordinary (all_isOrdinary_repr _))

theorem passes_inParens {expr : Expr} (passes : Passes expr.render.toList) (needed : Bool) :
    Passes (inParens needed expr.render).toList := by
  rw [toList_inParens]
  cases needed with
  | false => exact passes
  | true => exact passes.inParens

/-- Arguments are passed over with the commas between them. -/
theorem passes_arguments {arguments : List Expr}
    (each : ∀ argument ∈ arguments, Passes argument.render.toList) :
    Passes (String.intercalate ", " (arguments.map Expr.render)).toList := by
  induction arguments with
  | nil => exact passes_ordinary (by simp)
  | cons argument arguments ih =>
      rw [List.forall_mem_cons] at each
      cases arguments with
      | nil =>
          rw [List.map_singleton, String.intercalate_singleton]
          exact each.1
      | cons next arguments =>
          have comma : Passes [',', ' '] := passes_ordinary (by decide)
          rw [List.map_cons, List.map_cons, toList_intercalate_cons]
          exact each.1.append (comma.append (ih each.2))

/-- A call is passed over if its arguments are. -/
theorem passes_call {function : String} (valid : isName function) {arguments : List Expr}
    (each : ∀ argument ∈ arguments, Passes argument.render.toList) :
    Passes (Expr.call function arguments).render.toList := by
  rw [toList_render_call]
  exact (passes_ordinary (all_isOrdinary_name valid)).append (passes_arguments each).inParens

/-- The reader of a body passes over a plain expression. -/
theorem passes_render {expr : Expr} (normal : expr.Normal) (plain : expr.Plain) :
    Passes expr.render.toList := by
  induction expr with
  | literal value =>
      cases value with
      | text content =>
          rw [Expr.render, toList_inQuotes, toList_escape]
          exact passes_quoted _
      | number value => exact passes_int value
      | boolean flag => cases flag <;> exact passes_ordinary (by decide)
  | named name => exact passes_ordinary (all_isOrdinary_name (Expr.normal_named.mp normal))
  | reference name =>
      have spelled : (Expr.reference name).render.toList =
          ['$'] ++ '(' :: (name.toList ++ [')']) := by
        simp [Expr.render]
      have dollar : Passes ['$'] := passes_ordinary (by decide)
      rw [spelled]
      exact dollar.append (passes_ordinary (all_isOrdinary_reference normal.regular)).inParens
  | call function arguments ih =>
      rw [Expr.normal_call] at normal
      have inside := (Expr.forall_mem_subterms_call.mp plain).2
      apply passes_call normal.1
      intro argument member
      exact ih argument member (normal.2 argument member) (inside argument member)
  | interpolated parts _ => exact absurd rfl (plain _ (Expr.self_mem_subterms _) parts)
  | binary op left right first second =>
      rw [Expr.normal_binary] at normal
      have inside := (Expr.forall_mem_subterms_binary.mp plain).2
      have space : Passes [' '] := passes_ordinary (by decide)
      have symbol : Passes op.symbol.toList := by
        cases op <;> exact passes_ordinary (by decide)
      rw [toList_render_binary]
      exact (passes_inParens (first normal.1 inside.1) _).append (space.append (symbol.append
        (space.append (passes_inParens (second normal.2 inside.2) _))))

/-- Plain arguments never keep a call inside of a literal from being read again. -/
theorem rescans_of_shallow {expr : Expr} (normal : expr.Normal) (shallow : expr.Shallow) :
    expr.Rescans := by
  intro sub member
  cases sub with
  | interpolated parts =>
      have inner : (Expr.interpolated parts).Normal := fun below inside =>
        normal below (Expr.subterms_subset member inside)
      rw [Expr.normal_interpolated] at inner
      intro part inside isCall
      cases part with
      | call function arguments =>
          have valid := Expr.normal_call.mp (inner.2 _ inside)
          have plain := shallow parts member function arguments inside
          have passes : Passes (Expr.call function arguments).render.toList := by
            apply passes_call valid.1
            intro argument present
            exact passes_render (valid.2 argument present) (plain argument present)
          rw [passes]
          simp [readBody, readBefore]
      | _ => simp [Expr.isCall] at isCall
  | _ => trivial

/-- **The printer writes every program that can be written.** The names, numbers and literals of
the program have to be such as the grammar has them, whether or not a source ever had them; no
literal with references may stand in the arguments of a call inside of another one; and the blocks
and expressions may not be too large to be read. -/
theorem Program.render_complete (limit : Nat) (program : Program)
    (some : program.statements ≠ [])
    (regular : ∀ statement ∈ program.allStatements, statement.Regular)
    (shallow : ∀ statement ∈ program.allStatements, statement.value.Shallow)
    (deep : blockDepth program.statements ≤ limit)
    (small : ∀ statement ∈ program.allStatements, statement.value.printedSize ≤ 256) :
    ∃ again, Program.parse limit program.render = .ok again ∧
      again.unlined = program.unlined := by
  refine parse_render some regular (fun statement member => ?_) deep small
  exact rescans_of_shallow (regular statement member).normal (shallow statement member)

theorem Program.render_complete_literal :
    ∃ again, Program.parse 1 (Program.render ⟨[.conditional (.binary .equal (.reference "1")
        (.binary .subtract (.named "x") (.literal (.number (-2)))))
        [.send (.interpolated [.literal (.text "$(\n"), .call "f" [.literal (.text ")")]]) 0]
        none 0]⟩) = .ok again ∧
      again.unlined = Program.unlined ⟨[.conditional (.binary .equal (.reference "1")
        (.binary .subtract (.named "x") (.literal (.number (-2)))))
        [.send (.interpolated [.literal (.text "$(\n"), .call "f" [.literal (.text ")")]]) 0]
        none 0]⟩ := by
  have position : (Expr.reference "1").Regular := .inr ⟨1, by decide, by decide⟩
  have isVariable : isName "x" := by decide
  have isFunction : isName "f" := by decide
  apply Program.render_complete
  · simp
  · simpa [Program.allStatements, blockStatements, Statement.substatements, Statement.Regular,
      Expr.Regular, Expr.isPart, Expr.isLiteral, Text.minNumber, Text.maxNumber, isVariable,
      isFunction] using position
  · simp [Program.allStatements, blockStatements, Statement.substatements, Statement.value,
      Expr.Shallow, Expr.Plain, Expr.subterms]
  · simp [blockDepth, Statement.depth]
  · simp [Program.allStatements, blockStatements, Statement.substatements, Statement.value,
      leftNeedsParens, rightNeedsParens, BinaryOp.strength, BinaryOp.isComparison, Expr.isCall]

end ChatScript
