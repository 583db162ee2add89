import ChatScript.Proofs.Leaves
import ChatScript.Proofs.RoundTrip

/-! # Where reading again goes wrong

If a call inside of a string literal cannot be read again, then the literal that holds it becomes
another token, and from there on the text may be read as anything. Still the program cannot come
out again (`derailed_render`): up to the first such literal the tokens are those that were written,
so they have used up exactly the leaves of the tree in front of it, and the token that comes next
does not stand for the literal's parts. What is read in place of the call is shorter or longer than
the call, and no call is the beginning of another (`not_derives_body`).

So printing can be undone for exactly those programs in which every call inside of a literal is
read again as it was written (`Program.Rescans`).
-/

namespace ChatScript

theorem targetKind_leaf (name : String) :
    (targetKind name).isMark = false ∧ ∀ body, targetKind name ≠ .literal [.reference body] := by
  unfold targetKind digitsKind
  split
  · exact ⟨rfl, by simp⟩
  · split <;> exact ⟨rfl, by simp⟩

theorem settles_grouped {kinds : List TokenKind} {count : Nat} (settles : Settles kinds count)
    (needed : Bool) : Settles (grouped needed kinds) count := by
  cases needed with
  | false => exact settles
  | true => exact settles.close.mark rfl

/-- Arguments stand for the leaves of all of them. -/
theorem settles_argumentKinds {arguments : List Expr}
    (each : ∀ argument ∈ arguments, Settles argument.kinds argument.leaves.length) :
    Settles (argumentKinds arguments) (leavesOfAll arguments).length := by
  induction arguments with
  | nil => exact settles_nil
  | cons argument arguments ih =>
      rw [List.forall_mem_cons] at each
      rw [leavesOfAll, List.length_append]
      cases arguments with
      | nil => exact each.1
      | cons next arguments =>
          rw [argumentKinds_cons_cons]
          exact each.1.append ((ih each.2).mark rfl)

/-- The canonical tokens of an expression stand for as many leaves as it has. -/
theorem settles_kinds {expr : Expr} (normal : expr.Normal) :
    Settles expr.kinds expr.leaves.length := by
  induction expr with
  | literal value =>
      cases value with
      | text content => exact settles_nil.leaf rfl (by simp)
      | number value =>
          rw [Expr.kinds]
          split
          · exact (settles_nil.leaf rfl (by simp)).mark rfl
          · exact settles_nil.leaf rfl (by simp)
      | boolean flag => exact settles_nil.leaf rfl (by simp)
  | named name => exact settles_nil.leaf rfl (by simp)
  | reference name =>
      obtain ⟨noMark, plain⟩ := targetKind_leaf name
      exact (((settles_nil.mark rfl).leaf noMark plain).mark rfl).mark rfl
  | call function arguments ih =>
      rw [Expr.normal_call] at normal
      have inside := settles_argumentKinds fun argument member =>
        ih argument member (normal.2 argument member)
      exact (inside.close.mark rfl).leaf rfl (by simp)
  | interpolated parts _ =>
      refine settles_nil.leaf rfl fun body same => ?_
      have lengths := congrArg List.length (TokenKind.literal.inj same)
      have plural := normal.regular.1
      simp only [List.length_map, List.length_singleton] at lengths
      omega
  | binary op left right first second =>
      rw [Expr.normal_binary] at normal
      rw [Expr.kinds, Expr.leaves, List.length_append]
      exact (settles_grouped (first normal.1) _).append
        ((settles_grouped (second normal.2) _).mark rfl)

/-- A call that is derived ends with a closing parenthesis. -/
theorem Derives.call_last {function : String} {arguments : List Expr} {front : List TokenKind}
    {kind : TokenKind} {size : Nat}
    (derivation : Derives (.call function arguments) (front ++ [kind]) size) :
    kind = .closeParen := by
  obtain ⟨inside, whole, -⟩ := derivation.call_inside
  exact List.singleton_inj.mp (List.append_inj' whole rfl).2

theorem Derives.call_of_target {function : String} {arguments : List Expr}
    {kinds : List TokenKind} {size : Nat}
    (derivation : Derives (.target (.call function arguments)) kinds size) :
    Derives (.call function arguments) kinds size := by
  cases derivation with
  | targetCall inner => exact inner

/-- A text that is a call does not end inside of a token. -/
theorem kindsOf_prefix_of_call {function : String} {arguments : List Expr} {body : List Char}
    {size : Nat} (derivation : Derives (.call function arguments) (kindsOf body) size)
    (oneLine : '\n' ∉ body) (missing : List Char) :
    kindsOf body <+: kindsOf (body ++ missing) := by
  rcases kindsOf_cut oneLine missing with inside | ⟨front, last, whole, -, notClosing⟩
  · exact inside
  · rw [whole] at derivation
    exact absurd derivation.call_last notClosing

/-- A call that is read again as it was written is derived from its canonical tokens. -/
theorem canonical_of_rescans {function : String} {arguments : List Expr}
    (normal : (Expr.call function arguments).Normal)
    (rescans : (Expr.call function arguments).Rescans) :
    Derives (.call function arguments) (Expr.kinds (.call function arguments))
      (Expr.printedSize (.call function arguments)) :=
  ((derives_kinds normal rescans).target rfl).call_of_target

/-- The body that ends too early is not the call that was written. -/
theorem not_derives_shorter {function : String} {arguments : List Expr} {body missing : List Char}
    (normal : (Expr.call function arguments).Normal)
    (rescans : (Expr.call function arguments).Rescans) (oneLine : '\n' ∉ body)
    (shorter : (Expr.call function arguments).render.toList = body ++ missing)
    (some : missing ≠ []) (size : Nat) :
    ¬ Derives (.call function arguments) (kindsOf body) size := by
  intro derivation
  rw [Expr.normal_call] at normal
  obtain ⟨front, last, rfl⟩ := (List.eq_nil_or_concat missing).resolve_left some
  rw [toList_render_call, List.concat_eq_append, ← List.append_assoc, ← List.cons_append,
    ← List.append_assoc] at shorter
  obtain ⟨same, -⟩ := List.append_inj' shorter rfl
  have opened : kindsOf (body ++ front) =
      .identifier function :: .openParen :: argumentKinds arguments := by
    have inside := kindsOf_arguments
      (fun argument member => kindsOf_render (normal.2 argument member)
        (Expr.rescans_call.mp rescans argument member)) endsWord_nil
    rw [List.append_nil, kindsOf_nil, List.append_nil] at inside
    rw [← same, kindsOf_name normal.1 (endsWord_cons '(' (by decide) _), kindsOf_openParen, inside]
  obtain ⟨rest, whole⟩ := kindsOf_prefix_of_call derivation oneLine front
  have closed := canonical_of_rescans (Expr.normal_call.mpr normal) rescans
  rw [Expr.kinds, ← List.cons_append, ← List.cons_append, ← opened, ← whole,
    List.append_assoc] at closed
  exact absurd (derivation.call_append_eq closed) (by simp)

/-- The body that goes on too long is not the call that was written. -/
theorem not_derives_longer {function : String} {arguments : List Expr} {extra : List Char}
    (normal : (Expr.call function arguments).Normal)
    (rescans : (Expr.call function arguments).Rescans) (size : Nat) :
    ¬ Derives (.call function arguments)
      (kindsOf ((Expr.call function arguments).render.toList ++ ')' :: extra)) size := by
  intro derivation
  rw [kindsOf_render normal rescans _ (endsWord_cons ')' (by decide) _), kindsOf_closeParen]
    at derivation
  exact absurd ((canonical_of_rescans normal rescans).call_append_eq derivation) (by simp)

/-- If a call inside of a literal is not read again as it was written, then whatever is read
instead of it does not stand for it. -/
theorem not_derives_body {function : String} {arguments : List Expr}
    (normal : (Expr.call function arguments).Normal)
    (derails : ¬ (Expr.call function arguments).Rescans → ∀ rest,
      Derailed (kindsOf ((Expr.call function arguments).render.toList ++ rest))
        (Expr.call function arguments).leaves)
    (illegible : (Expr.call function arguments).Rescans →
      ¬ (Fragment.reference (Expr.call function arguments).render).Closed)
    {more body after : List Char}
    (read : readBody 0 none ((Expr.call function arguments).render.toList ++ ')' :: more) =
      some (body, after)) (size : Nat) :
    ¬ Derives (.target (.call function arguments)) (kindsOf body) size := by
  intro target
  have derivation := target.call_of_target
  have oneLine := newline_not_mem_body read
  by_cases rescans : (Expr.call function arguments).Rescans
  · have differs : body ≠ (Expr.call function arguments).render.toList := by
      rintro rfl
      exact illegible rescans (readBody_local read [])
    rcases List.append_eq_append_iff.mp (readBody_eq_some read) with
      ⟨extra, longer, rest⟩ | ⟨missing, shorter, -⟩
    · cases extra with
      | nil => exact differs (by rw [longer, List.append_nil])
      | cons c extra =>
          obtain ⟨rfl, -⟩ := List.cons_eq_cons.mp rest
          rw [longer] at derivation
          exact not_derives_longer normal rescans size derivation
    · refine not_derives_shorter normal rescans oneLine shorter ?_ size derivation
      rintro rfl
      exact differs (by rw [shorter, List.append_nil])
  · have spells : Spells (kindsOf body) (Expr.call function arguments).leaves :=
      spells_of_derives derivation
    rcases List.append_eq_append_iff.mp (readBody_eq_some read) with
      ⟨extra, longer, -⟩ | ⟨missing, shorter, -⟩
    · have derailed := derails rescans extra
      rw [← longer] at derailed
      exact derailed.not_spells _ List.prefix_rfl spells
    · have derailed := derails rescans []
      rw [List.append_nil, shorter] at derailed
      exact derailed.not_spells _ (kindsOf_prefix_of_call derivation oneLine missing) spells

/-- The parts of a literal are derived from its fragments one by one. -/
theorem Derives.part_of_fragment {front back : List Expr} {part : Expr}
    {fragments others : List Fragment} {body : String} {size : Nat}
    (derivation : Derives (.parts (front ++ part :: back))
      [.literal (fragments ++ .reference body :: others)] size)
    (lengths : front.length = fragments.length) :
    ∃ size, Derives (.target part) (kindsOf body.toList) size := by
  induction front generalizing fragments size with
  | nil =>
      rw [List.length_nil] at lengths
      rw [List.length_eq_zero_iff.mp lengths.symm] at derivation
      cases derivation with
      | referencePart inner _ => exact ⟨_, inner⟩
  | cons first front ih =>
      cases fragments with
      | nil => simp at lengths
      | cons fragment fragments =>
          rw [List.length_cons, List.length_cons, Nat.add_right_cancel_iff] at lengths
          cases derivation with
          | textPart _ further => exact ih further lengths
          | referencePart _ further => exact ih further lengths

/-- The first element of a list for which something does not hold. -/
theorem exists_first_not {α : Type} {holds : α → Prop} {elements : List α}
    (fails : ¬ ∀ element ∈ elements, holds element) :
    ∃ front element back, elements = front ++ element :: back ∧
      (∀ other ∈ front, holds other) ∧ ¬ holds element := by
  induction elements with
  | nil => simp at fails
  | cons first elements ih =>
      by_cases good : holds first
      · have later : ¬ ∀ element ∈ elements, holds element :=
          fun all => fails (List.forall_mem_cons.mpr ⟨good, all⟩)
        obtain ⟨front, element, back, rfl, before, bad⟩ := ih later
        exact ⟨first :: front, element, back, rfl, List.forall_mem_cons.mpr ⟨good, before⟩, bad⟩
      · exact ⟨[], first, elements, rfl, by simp, good⟩

theorem separated_append {first second : List Fragment} (separated : Separated (first ++ second)) :
    Separated first := by
  obtain ⟨full, apart⟩ := separated
  refine ⟨fun content member => full content (List.mem_append_left _ member), ?_⟩
  exact apart.left_of_append

/-- Quoted text is neither a mark nor a word, whether or not it is closed. -/
theorem quoted_leaf (quote : Char) (cs : List Char) :
    (Lexed.quoted quote cs).kind.isMark = false ∧ (Lexed.quoted quote cs).kind.isWord = false := by
  unfold Lexed.quoted
  split <;> exact ⟨rfl, rfl⟩

/-- No literal is an unknown token. -/
theorem not_derives_unknown {parts : List Expr} {size : Nat} :
    ¬ Derives (.parts parts) [.unknown] size := by
  intro derivation
  cases derivation

/-- What a part of a literal needs to be read again. -/
def Expr.Reread (part : Expr) : Prop :=
  part.isCall → part.fragment.Closed ∧ part.Rescans

/-- A part that can be read again is closed. -/
theorem closed_of_reread {part : Expr} (isPart : part.isPart) (normal : part.Normal)
    (reread : part.Reread) : part.fragment.Closed := by
  refine closed_fragment isPart normal fun isCall => ?_
  cases part with
  | call function arguments => exact (reread rfl).1
  | _ => simp [Expr.isCall] at isCall

/-- A literal is read again if each of its parts can be. -/
theorem rescans_of_reread {parts : List Expr} (each : ∀ part ∈ parts, part.isPart)
    (reread : ∀ part ∈ parts, part.Reread) : (Expr.interpolated parts).Rescans := by
  rw [Expr.rescans_interpolated]
  constructor
  · intro part member isCall
    cases part with
    | call function arguments => exact (reread _ member rfl).1
    | _ => simp [Expr.isCall] at isCall
  · intro part member
    have isPart := each part member
    cases part with
    | literal value => simp [Expr.Rescans, Expr.subterms, Expr.ClosesParts]
    | reference name => simp [Expr.Rescans, Expr.subterms, Expr.ClosesParts]
    | call function arguments => exact (reread _ member rfl).2
    | named name | interpolated parts | binary op left right => simp [Expr.isPart] at isPart

/-- A literal that is not read again as it was written derails, whatever follows. -/
theorem derailed_interpolated {parts : List Expr} (normal : (Expr.interpolated parts).Normal)
    (fails : ¬ (Expr.interpolated parts).Rescans)
    (derails : ∀ part ∈ parts, ¬ part.Rescans →
      ∀ rest, Derailed (kindsOf (part.render.toList ++ rest)) part.leaves) (rest : List Char) :
    Derailed (kindsOf ((Expr.interpolated parts).render.toList ++ rest))
      (Expr.interpolated parts).leaves := by
  rw [Expr.normal_interpolated] at normal
  obtain ⟨regular, each⟩ := normal
  obtain ⟨front, part, back, rfl, good, bad⟩ :=
    exists_first_not fun reread => fails (rescans_of_reread regular.2.1 reread)
  obtain ⟨isCall, bad⟩ := Classical.not_imp.mp bad
  have separated : Separated (front.map Expr.fragment) := by
    have whole := (lexical_fragments regular).2
    rw [List.map_append] at whole
    exact separated_append whole
  have closed : ∀ fragment ∈ front.map Expr.fragment, fragment.Closed := by
    intro fragment member
    obtain ⟨other, inside, rfl⟩ := List.mem_map.mp member
    have present : other ∈ front ++ part :: back := List.mem_append_left _ inside
    exact closed_of_reread (regular.2.1 other present) (each other present) (good other inside)
  have present : part ∈ front ++ part :: back := by simp
  cases part with
  | call function arguments =>
      have spelled :
          (Expr.interpolated (front ++ .call function arguments :: back)).render.toList ++ rest =
          '"' :: ((front.map Expr.fragment).flatMap Fragment.written ++ '$' :: '(' ::
            ((Expr.call function arguments).render.toList ++ ')' ::
              ((back.map Expr.fragment).flatMap Fragment.written ++ '"' :: rest))) := by
        simp [toList_render_interpolated, Expr.fragment, Fragment.written]
      rw [spelled, kindsOf_doubleQuote, Expr.leaves]
      refine .here (quoted_leaf _ _).1 (quoted_leaf _ _).2 fun size derivation => ?_
      rcases kind_quoted_reference separated closed _ with
        unknown | ⟨body, after, others, read, kind⟩
      · rw [unknown] at derivation
        exact not_derives_unknown derivation
      · rw [kind] at derivation
        obtain ⟨size, target⟩ := derivation.part_of_fragment (List.length_map _).symm
        rw [String.toList_ofList] at target
        exact not_derives_body (each _ present) (derails _ present)
          (fun rescans isClosed => bad ⟨isClosed, rescans⟩) read size target
  | _ => simp [Expr.isCall] at isCall

theorem derailed_inParens {expr : Expr} {leaves : List (Option (List Expr))}
    (derails : ∀ rest, Derailed (kindsOf (expr.render.toList ++ rest)) leaves) (needed : Bool)
    (rest : List Char) :
    Derailed (kindsOf ((inParens needed expr.render).toList ++ rest)) leaves := by
  rw [toList_inParens]
  cases needed with
  | false => exact derails rest
  | true =>
      rw [if_pos rfl, List.cons_append, List.append_assoc, kindsOf_openParen]
      exact (derails _).mark rfl

/-- Arguments derail at the first of them that is not read again. -/
theorem derailed_arguments {arguments : List Expr}
    (normal : ∀ argument ∈ arguments, argument.Normal)
    (fails : ¬ ∀ argument ∈ arguments, argument.Rescans)
    (derails : ∀ argument ∈ arguments, ¬ argument.Rescans →
      ∀ rest, Derailed (kindsOf (argument.render.toList ++ rest)) argument.leaves)
    (rest : List Char) :
    Derailed (kindsOf ((String.intercalate ", " (arguments.map Expr.render)).toList ++ rest))
      (leavesOfAll arguments) := by
  induction arguments with
  | nil => simp at fails
  | cons argument arguments ih =>
      rw [List.forall_mem_cons] at normal derails
      rw [leavesOfAll]
      by_cases rescans : argument.Rescans
      · have later : ¬ ∀ argument ∈ arguments, argument.Rescans :=
          fun all => fails (List.forall_mem_cons.mpr ⟨rescans, all⟩)
        cases arguments with
        | nil => simp at later
        | cons next arguments =>
            rw [List.map_cons, List.map_cons, toList_intercalate_cons, List.append_assoc,
              List.cons_append, List.cons_append,
              kindsOf_render normal.1 rescans _ (endsWord_cons ',' (by decide) _), kindsOf_comma,
              kindsOf_space]
            exact .later (settles_kinds normal.1) ((ih normal.2 later derails.2).mark rfl)
      · apply Derailed.append
        cases arguments with
        | nil =>
            rw [List.map_singleton, String.intercalate_singleton]
            exact derails.1 rescans rest
        | cons next arguments =>
            rw [List.map_cons, List.map_cons, toList_intercalate_cons, List.append_assoc]
            exact derails.1 rescans _

/-- The tokens of a canonical text that is not read again as it was written do not stand for the
expression, whatever follows it. -/
theorem derailed_render {expr : Expr} (normal : expr.Normal) (fails : ¬ expr.Rescans) :
    ∀ rest, Derailed (kindsOf (expr.render.toList ++ rest)) expr.leaves := by
  induction expr with
  | literal value | named name | reference name =>
      exact absurd (by simp [Expr.Rescans, Expr.subterms, Expr.ClosesParts]) fails
  | call function arguments ih =>
      intro rest
      rw [Expr.normal_call] at normal
      rw [Expr.rescans_call] at fails
      have inside := derailed_arguments normal.2 fails fun argument member =>
        ih argument member (normal.2 argument member)
      rw [toList_render_call, List.append_assoc, List.cons_append, List.append_assoc,
        kindsOf_name normal.1 (endsWord_cons '(' (by decide) _), kindsOf_openParen, Expr.leaves]
      exact ((inside _).mark rfl).name function
  | interpolated parts ih =>
      apply derailed_interpolated normal fails
      intro part member
      exact ih part member ((Expr.normal_interpolated.mp normal).2 part member)
  | binary op left right first second =>
      intro rest
      rw [Expr.normal_binary] at normal
      rw [toList_render_binary, List.append_assoc, Expr.leaves]
      by_cases rescans : left.Rescans
      · have other : ¬ right.Rescans := fun both => fails (Expr.rescans_binary.mpr ⟨rescans, both⟩)
        have legible := kindsOf_render normal.1 rescans
        rw [List.cons_append, List.append_assoc, List.cons_append,
          kindsOf_inParens legible _ (endsWord_cons ' ' (by decide) _), kindsOf_space,
          kindsOf_symbol]
        refine .later (settles_grouped (settles_kinds normal.1) _) (Derailed.mark rfl ?_)
        exact derailed_inParens (second normal.2 other) _ rest
      · exact (derailed_inParens (first normal.1 rescans) _ _).append _

/-! ## Statements -/

mutual

/-- The words and literals of a statement, apart from its keywords. -/
def Statement.leaves : Statement → List (Option (List Expr))
  | .set _ value _ => none :: value.leaves
  | .send value _ => value.leaves
  | .conditional condition thenBranch none _ => condition.leaves ++ blockLeaves thenBranch
  | .conditional condition thenBranch (some elseBranch) _ =>
    condition.leaves ++ (blockLeaves thenBranch ++ blockLeaves elseBranch)

/-- The words and literals of a block. -/
def blockLeaves : List Statement → List (Option (List Expr))
  | [] => []
  | statement :: statements => statement.leaves ++ blockLeaves statements

end

/-- The leaves do not depend on the lines of statements. -/
theorem leaves_unlined :
    (∀ statement : Statement, statement.unlined.leaves = statement.leaves) ∧
      ∀ statements, blockLeaves (blockUnlined statements) = blockLeaves statements := by
  apply Statement.blockInduction
  case set => exact fun _ _ _ => rfl
  case send => exact fun _ _ => rfl
  case conditional =>
    intro condition thenBranch line block
    rw [Statement.unlined, Statement.leaves, Statement.leaves, block]
  case alternative =>
    intro condition thenBranch elseBranch line first second
    rw [Statement.unlined, Statement.leaves, Statement.leaves, first, second]
  case empty => rfl
  case next =>
    intro statement statements first others
    rw [blockUnlined, blockLeaves, blockLeaves, first, others]

/-- The words and literals of a clause. -/
def Clause.leaves : Clause → List (Option (List Expr))
  | .statement first => first.leaves
  | .block all => blockLeaves all

theorem FormsValue.spells {tokens : List Token} {value : Expr} (forms : FormsValue tokens value) :
    Spells (tokens.map Token.kind) value.leaves := by
  obtain ⟨size, -, derivation⟩ := forms
  exact spells_of_derives derivation

/-- The tokens of a clause stand for its leaves. -/
theorem spells_of_forms {levels : Nat} {clause : Clause} {tokens : List Token}
    (forms : Forms levels clause tokens) : Spells (tokens.map Token.kind) clause.leaves := by
  induction forms with
  | set isSet isBound value =>
      rw [List.map_cons, List.map_cons, isSet, isBound]
      exact .mark rfl (.word rfl value.spells)
  | assign isSet isBound isAssign value =>
      rw [List.map_cons, List.map_cons, List.map_cons, isSet, isBound, isAssign]
      exact .mark rfl (.word rfl (.mark rfl value.spells))
  | send isSend value =>
      rw [List.map_cons, isSend]
      exact .mark rfl value.spells
  | conditional isWhen value isThen _ isEnd ih =>
      have closing : Spells [.keyword .end] [] := .mark rfl .nil
      have branch := ih.append closing
      rw [List.append_nil] at branch
      rw [List.map_cons, List.map_append, List.map_cons, List.map_append, List.map_singleton,
        isWhen, isThen, isEnd]
      exact .mark rfl (value.spells.append (.mark rfl branch))
  | alternative isWhen value isThen _ isElse _ isEnd first second =>
      have closing : Spells [.keyword .end] [] := .mark rfl .nil
      have branch := second.append closing
      rw [List.append_nil] at branch
      rw [List.map_cons, List.map_append, List.map_cons, List.map_append, List.map_cons,
        List.map_append, List.map_singleton, isWhen, isThen, isElse, isEnd]
      exact .mark rfl (value.spells.append (.mark rfl (first.append (.mark rfl branch))))
  | empty => exact .nil
  | newline isNewline _ ih =>
      rw [List.map_cons, isNewline]
      exact .mark rfl ih
  | next _ _ first others =>
      rw [List.map_append]
      exact first.append others

/-- The tokens of a statement stand for as many leaves as it has. -/
theorem settles_statement :
    (∀ statement : Statement, (∀ sub ∈ statement.substatements, sub.value.Normal) →
      Settles statement.kinds statement.leaves.length) ∧
    ∀ statements, (∀ sub ∈ blockStatements statements, sub.value.Normal) →
      Settles (blockKinds statements) (blockLeaves statements).length := by
  apply Statement.blockInduction
  case set =>
    intro name value line normal
    have settles := settles_kinds (normal _ (List.mem_singleton_self _))
    exact (settles.leaf rfl (by simp)).mark rfl
  case send =>
    intro value line normal
    exact (settles_kinds (normal _ (List.mem_singleton_self _))).mark rfl
  case conditional =>
    intro condition thenBranch line block normal
    rw [Statement.substatements, List.forall_mem_cons] at normal
    have closing : Settles [.keyword .end] 0 := settles_nil.mark rfl
    have branch := (block normal.2).append closing
    rw [Statement.kinds, Statement.leaves, List.length_append]
    exact ((settles_kinds normal.1).append ((branch.mark rfl).mark rfl)).mark rfl
  case alternative =>
    intro condition thenBranch elseBranch line first second normal
    rw [Statement.substatements, List.forall_mem_cons, List.forall_mem_append] at normal
    have closing : Settles [.keyword .end] 0 := settles_nil.mark rfl
    have branch := (second normal.2.2).append closing
    have branches : Settles (blockKinds thenBranch ++ .keyword .else :: .newline ::
        (blockKinds elseBranch ++ [.keyword .end]))
        ((blockLeaves thenBranch).length + (blockLeaves elseBranch).length) :=
      (first normal.2.1).append ((branch.mark rfl).mark rfl)
    rw [Statement.kinds, Statement.leaves, List.length_append, List.length_append]
    exact ((settles_kinds normal.1).append ((branches.mark rfl).mark rfl)).mark rfl
  case empty => exact fun _ => settles_nil
  case next =>
    intro statement statements first others normal
    rw [blockStatements, List.forall_mem_append] at normal
    rw [blockKinds, blockLeaves, List.length_append]
    exact (first normal.1).append ((others normal.2).mark rfl)

/-- The lines of a block of which some expression is not read again as it was written do not stand
for the block. -/
theorem derailed_renderBlock :
    (∀ statement : Statement, (∀ sub ∈ statement.substatements, sub.Regular) →
      (¬ ∀ sub ∈ statement.substatements, sub.value.Rescans) → ∀ depth rest,
        Derailed (kindsOf ((statement.renderAt depth).toList ++ rest)) statement.leaves) ∧
    ∀ statements, (∀ sub ∈ blockStatements statements, sub.Regular) →
      (¬ ∀ sub ∈ blockStatements statements, sub.value.Rescans) → ∀ depth rest,
        Derailed (kindsOf ((renderBlock depth statements).toList ++ rest))
          (blockLeaves statements) := by
  apply Statement.blockInduction
  case set =>
    intro name value line regular fails depth rest
    have own := regular _ (List.mem_singleton_self _)
    have bad : ¬ value.Rescans := by
      intro rescans
      exact fails (by simpa [Statement.substatements, Statement.value] using rescans)
    rw [Statement.renderAt, kindsOf_setLine depth own.1, Statement.leaves]
    exact ((derailed_render own.2 bad _).name name).mark rfl
  case send =>
    intro value line regular fails depth rest
    have own := regular _ (List.mem_singleton_self _)
    have bad : ¬ value.Rescans := by
      intro rescans
      exact fails (by simpa [Statement.substatements, Statement.value] using rescans)
    rw [Statement.renderAt, kindsOf_sendLine, Statement.leaves]
    exact (derailed_render own bad _).mark rfl
  case conditional =>
    intro condition thenBranch line block regular fails depth rest
    rw [Statement.substatements, List.forall_mem_cons] at regular fails
    have own : condition.Normal := regular.1
    rw [Statement.renderAt, String.toList_append, String.toList_append, List.append_assoc,
      List.append_assoc, kindsOf_whenLine, Statement.leaves]
    apply Derailed.mark rfl
    by_cases rescans : condition.Rescans
    · have later := fun all => fails ⟨rescans, all⟩
      rw [kindsOf_render own rescans _ (endsWord_thenLine _), kindsOf_thenLine]
      exact .later (settles_kinds own) (((block regular.2 later _ _).mark rfl).mark rfl)
    · exact (derailed_render own rescans _).append _
  case alternative =>
    intro condition thenBranch elseBranch line first second regular fails depth rest
    rw [Statement.substatements, List.forall_mem_cons, List.forall_mem_append] at regular fails
    have own : condition.Normal := regular.1
    rw [Statement.renderAt, String.toList_append, String.toList_append, String.toList_append,
      String.toList_append, List.append_assoc, List.append_assoc, List.append_assoc,
      List.append_assoc, kindsOf_whenLine, Statement.leaves]
    apply Derailed.mark rfl
    by_cases rescans : condition.Rescans
    · rw [kindsOf_render own rescans _ (endsWord_thenLine _), kindsOf_thenLine]
      refine .later (settles_kinds own) (Derailed.mark rfl (Derailed.mark rfl ?_))
      by_cases thens : ∀ sub ∈ blockStatements thenBranch, sub.value.Rescans
      · have later := fun all => fails ⟨rescans, thens, all⟩
        have legible : ∀ sub ∈ blockStatements thenBranch, sub.Legible := fun sub member =>
          (regular.2.1 sub member).legible (thens sub member)
        have settles := settles_statement.2 thenBranch fun sub member =>
          (regular.2.1 sub member).normal
        rw [kindsOf_renderBlock.2 thenBranch legible, kindsOf_elseLine]
        exact .later settles (((second regular.2.2 later _ _).mark rfl).mark rfl)
      · exact (first regular.2.1 thens _ _).append _
    · exact (derailed_render own rescans _).append _
  case empty =>
    intro _ fails
    exact absurd (by simp [blockStatements]) fails
  case next =>
    intro statement statements first others regular fails depth rest
    rw [blockStatements, List.forall_mem_append] at regular fails
    rw [renderBlock, String.toList_append, List.append_assoc, blockLeaves]
    by_cases rescans : ∀ sub ∈ statement.substatements, sub.value.Rescans
    · have later := fun all => fails ⟨rescans, all⟩
      have legible : ∀ sub ∈ statement.substatements, sub.Legible := fun sub member =>
        (regular.1 sub member).legible (rescans sub member)
      have settles := settles_statement.1 statement fun sub member =>
        (regular.1 sub member).normal
      rw [kindsOf_renderBlock.1 statement legible]
      exact .later settles ((others regular.2 later _ _).mark rfl)
    · exact (first regular.1 rescans _ _).append _

/-! ## The exact condition -/

/-- Every call inside of a string literal of the program is closed by the parenthesis that is
written for it. -/
def Program.Rescans (program : Program) : Prop :=
  ∀ statement ∈ program.allStatements, statement.value.Rescans

/-- If the printed text is parsed as the same program, no literal in it derails. -/
theorem rescans_of_parse_render {limit : Nat} {program again : Program}
    (regular : ∀ statement ∈ program.allStatements, statement.Regular)
    (parsed : Program.parse limit program.render = .ok again)
    (unlined : again.unlined = program.unlined) : program.Rescans := by
  by_contra fails
  have derailed := derailed_renderBlock.2 program.statements regular fails 0 []
  have forms := (Program.parse_eq_ok_iff_forms.mp parsed).2
  have spells := spells_of_forms forms
  have leaves : blockLeaves again.statements = blockLeaves program.statements := by
    rw [← leaves_unlined.2 again.statements, ← leaves_unlined.2 program.statements]
    exact congrArg (fun other => blockLeaves other.statements) unlined
  rw [List.append_nil] at derailed
  rw [Clause.leaves, leaves] at spells
  exact derailed.not_spells _ List.prefix_rfl spells

/-- **Printing an accepted source and parsing it again** gives the same program, apart from its
lines, exactly when the reader of reference bodies finds the end of every call that stands inside
of a string literal. It does not do so in general: it takes the first quote mark inside of a quoted
argument for the end of that argument, even if the mark belongs to another literal inside of it. -/
theorem Program.parse_render_iff (limit : Nat) (source : String) (program : Program)
    (parsed : Program.parse limit source = .ok program) :
    (∃ again, Program.parse limit program.render = .ok again ∧
      again.unlined = program.unlined) ↔ program.Rescans := by
  have regular := regular_of_parse parsed
  constructor
  · rintro ⟨again, reparsed, unlined⟩
    exact rescans_of_parse_render regular reparsed unlined
  · intro rescans
    obtain ⟨some, forms⟩ := Program.parse_eq_ok_iff_forms.mp parsed
    refine parse_render some regular rescans forms.depth_le fun statement member => ?_
    obtain ⟨⟨tokens, -, value⟩, -⟩ := among_of_parse parsed statement member
    exact value.printedSize_le

theorem Program.parse_render_iff_nested :
    ∃ program, Program.parse 0 "send \"a $(pick('b $(pick(\"c)\")) d'))\"" = .ok program ∧
      program.render = "send \"a $(pick(\"b $(pick(\"c)\")) d\"))\"\n" ∧
      (¬ ∃ again, Program.parse 0 program.render = .ok again ∧ again.unlined = program.unlined) ∧
      ¬ program.Rescans := by
  have accepted : (Program.parse 0 "send \"a $(pick('b $(pick(\"c)\")) d'))\"").toOption.map
      Program.render = some "send \"a $(pick(\"b $(pick(\"c)\")) d\"))\"\n" := by
    decide +kernel
  have refused : (Program.parse 0 "send \"a $(pick(\"b $(pick(\"c)\")) d\"))\"\n").toOption.map
      Program.render = none := by
    decide +kernel
  obtain ⟨program, parsed, printed⟩ := Program.exists_parse_of_render accepted
  have fails : ¬ ∃ again, Program.parse 0 program.render = .ok again ∧
      again.unlined = program.unlined := by
    rintro ⟨again, reparsed, -⟩
    rw [← printed, reparsed] at refused
    exact Option.some_ne_none _ refused
  exact ⟨program, parsed, printed, fails,
    (not_congr (Program.parse_render_iff 0 _ program parsed)).mp fails⟩

end ChatScript
