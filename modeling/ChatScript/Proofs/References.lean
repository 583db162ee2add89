import ChatScript.Proofs.Layout
import ChatScript.Proofs.Templates

/-! # References with and without quotes

What a reference means in a string literal it means without the quotes (`Program.parse_bare`).

In a literal the body is cut out of the text and cut into tokens on its own; without quotes it is
read where it stands. The closing parenthesis behind it makes no difference to its tokens, because
none of the tokens that a parser accepts goes on over a parenthesis
(`tokensFrom_append_closeParen`). So both have the same derivation, and both are charged for the
reference and for what is inside.
-/

namespace ChatScript

namespace Lexed

/-- Whether a token goes on over what follows can be told for each way of reading it. -/
theorem followedBy_ite_of_known {condition : Prop} [Decidable condition]
    {long long' short short' : Lexed} {more : List Char}
    (yes : condition → short.kind ≠ .unknown → long = short.followedBy more)
    (no : ¬condition → short'.kind ≠ .unknown → long' = short'.followedBy more)
    (known : (if condition then short else short').kind ≠ .unknown) :
    (if condition then long else long') =
      (if condition then short else short').followedBy more := by
  refine followedBy_ite (fun holds => yes holds ?_) fun fails => no fails ?_
  · rwa [if_pos holds] at known
  · rwa [if_neg fails] at known

/-- Quoted text that is closed is the same whatever follows it. -/
theorem quoted_of_known {quote : Char} (isQuote : quote = '"' ∨ quote = '\'') {cs : List Char}
    (known : (quoted quote cs).kind ≠ .unknown) (more : List Char) :
    quoted quote (cs ++ more) = (quoted quote cs).followedBy more := by
  unfold quoted at known ⊢
  cases read : readQuoted quote cs with
  | none =>
      rw [read] at known
      exact absurd rfl known
  | some found =>
      obtain ⟨pieces, rest⟩ := found
      rw [readQuoted_eq_some read, List.append_assoc, List.cons_append,
        readQuoted_local isQuote read]
      rfl

/-- Reading a known token does not look beyond a closing parenthesis behind it. -/
theorem read_closeParen {c : Char} {cs : List Char} (known : (read c cs).kind ≠ .unknown)
    (more : List Char) : read c (cs ++ ')' :: more) = (read c cs).followedBy (')' :: more) := by
  unfold read at known ⊢
  revert known
  iterate 6 refine followedBy_ite_of_known (fun _ _ => rfl) fun _ => ?_
  iterate 4
    refine followedBy_ite_of_known (fun _ _ => withEquals_stop (by decide) _ _ cs more) fun _ => ?_
  refine followedBy_ite_of_known (fun isQuote known => quoted_of_known isQuote known _) fun _ => ?_
  iterate 2 refine followedBy_ite_of_known (fun _ _ => run_stop rfl _ c cs more) fun _ => ?_
  exact fun _ => rfl

end Lexed

/-- A closing parenthesis ends the tokens of a text in which they are all known. -/
theorem tokensFrom_append_closeParen {line : Nat} {front : List Char}
    (known : ∀ token ∈ tokensFrom line front, token.kind ≠ .unknown) (noComment : '#' ∉ front)
    (back : List Char) :
    tokensFrom line (front ++ ')' :: back) =
      tokensFrom line front ++ ⟨.closeParen, ")", line + front.count '\n'⟩ ::
        tokensFrom (line + front.count '\n') back := by
  fun_induction tokensFrom line front with
  | case1 line =>
      rw [List.nil_append, tokensFrom, if_neg (by decide), if_neg (by decide), if_neg (by decide)]
      rfl
  | case2 line rest ih => exact absurd (List.mem_cons_self ..) noComment
  | case3 line c rest other gap ih =>
      have noNewline : c ≠ '\n' := by
        rintro rfl
        cases gap
      rw [List.mem_cons, not_or] at noComment
      rw [List.cons_append, tokensFrom, if_neg other, if_pos gap, ih known noComment.2,
        List.count_cons_of_ne noNewline]
  | case4 line rest other noGap ih =>
      rw [List.mem_cons, not_or] at noComment
      rw [List.forall_mem_cons] at known
      rw [List.cons_append, tokensFrom_newline, ih known.2 noComment.2, List.count_cons_self,
        List.cons_append, Nat.add_right_comm, Nat.add_assoc]
  | case5 line c rest other noGap noNewline token ih =>
      rw [List.mem_cons, not_or] at noComment
      rw [List.forall_mem_cons] at known
      have behind : '#' ∉ token.rest := fun member =>
        noComment.2 (Lexed.tail_append_rest c rest ▸ List.mem_append_right _ member)
      have further := ih known.2 behind
      rw [Lexed.count_rest] at further
      rw [List.cons_append, tokensFrom, if_neg other, if_neg noGap, if_neg noNewline,
        Lexed.read_closeParen known.1, List.count_cons_of_ne noNewline, List.cons_append]
      exact congrArg _ further

namespace Program

/-- A script that sends a reference in quotes is parsed as the target of the reference. -/
theorem exists_target_of_parse {limit : Nat} {source body lexeme : String} {program : Program}
    (tokens : tokenize source =
      [⟨.keyword .send, "send", 1⟩, ⟨.literal [.reference body], lexeme, 1⟩])
    (parsed : parse limit source = .ok program) :
    ∃ value size, program = ⟨[.send value 1]⟩ ∧ size + 1 ≤ maxExpressionSize ∧
      Derives (.target value) ((tokenize body).map Token.kind) size := by
  obtain ⟨values, counted, rfl, parts⟩ := exists_parts_of_parse tokens parsed
  simp only [literalParts, bind_eq_ok_iff, spend_eq_ok_iff, Except.ok.injEq, Prod.mk.injEq]
    at parts
  obtain ⟨_, ⟨room, rfl⟩, ⟨value, middle⟩, inside, ⟨_, _⟩, ⟨rfl, rfl⟩, rfl, rfl⟩ := parts
  obtain ⟨size, derivation, rfl, within⟩ := embedded_derives (faithful_expressionAt _) inside
  have small := within room
  exact ⟨value, size, rfl, by omega, derivation⟩

/-- A text that begins with a quote mark and is a single token begins with that token. -/
theorem exists_token_of_kind {text : String} {cs : List Char} {kind : TokenKind}
    (spelled : text.toList = '"' :: cs) (single : (tokenize text).map Token.kind = [kind]) :
    ∃ lexeme, tokenize text = [⟨kind, lexeme, 1⟩] := by
  rw [tokenize, spelled, tokensFrom, if_neg (by decide), if_neg (by decide), if_neg (by decide)]
    at single ⊢
  obtain ⟨isKind, nothing⟩ := List.cons.inj single
  exact ⟨_, congrArg₂ _ (congrArg (Token.mk · _ 1) isKind) (List.map_eq_nil_iff.mp nothing)⟩

theorem toList_bare (body : String) :
    ("$(" ++ body ++ ")").toList = '$' :: '(' :: (body.toList ++ [')']) := by
  simp [String.toList_append]

/-- The tokens of a reference without quotes, if those of its body are known. -/
theorem map_kind_tokenize_bare {body : String}
    (known : ∀ token ∈ tokenize body, token.kind ≠ .unknown) (noComment : '#' ∉ body.toList) :
    (tokenize ("$(" ++ body ++ ")")).map Token.kind =
      .dollar :: .openParen :: (tokenize body).map Token.kind ++ [.closeParen] := by
  rw [map_kind_tokenize, toList_bare, kindsOf_dollar, kindsOf_openParen, kindsOf,
    tokensFrom_append_closeParen known noComment, List.map_append, tokenize, List.map_cons,
    tokensFrom, List.map_nil]
  rfl

/-- A script that sends an expression. -/
theorem parse_send {limit : Nat} {gap text : String} {value : Expr}
    (blank : gap.toList.all isGap) {c : Char} {cs : List Char} (spelled : text.toList = c :: cs)
    (ends : isWordChar c = false) (forms : FormsValue (tokenize text) value) :
    parse limit ("send" ++ gap ++ text) = .ok ⟨[.send value 1]⟩ := by
  refine parse_eq_ok_iff_forms.mpr ⟨List.cons_ne_nil _ _, ?_⟩
  rw [tokenize_send blank spelled ends]
  have isSend : (Token.mk (.keyword .send) "send" 1).kind = .keyword .send := rfl
  have statements : Forms limit _ _ := .next (.send isSend forms) .empty
  rwa [List.append_nil] at statements

/-- **A reference means the same in quotes and without them.** If a body without comment marks is
the only fragment of a string literal, then a script that sends the literal is the same program as
one that sends the reference itself. -/
theorem parse_bare {limit : Nat} {body gap : String} {program : Program}
    (noComment : '#' ∉ body.toList)
    (quoted : (tokenize ("\"$(" ++ body ++ ")\"")).map Token.kind = [.literal [.reference body]])
    (blank : gap.toList.all isGap)
    (parsed : parse limit ("send" ++ gap ++ ("\"$(" ++ body ++ ")\"")) = .ok program) :
    ∀ other : String, other.toList.all isGap →
      parse limit ("send" ++ other ++ ("$(" ++ body ++ ")")) = .ok program := by
  intro other otherBlank
  have marked : ("\"$(" ++ body ++ ")\"").toList =
      '"' :: '$' :: '(' :: (body.toList ++ [')', '"']) := by
    simp [String.toList_append]
  obtain ⟨lexeme, literal⟩ := exists_token_of_kind marked quoted
  have tokens := tokenize_send blank marked (by decide)
  rw [literal] at tokens
  obtain ⟨value, size, rfl, small, derivation⟩ := exists_target_of_parse tokens parsed
  have known : ∀ token ∈ tokenize body, token.kind ≠ .unknown := by
    intro token member unknown
    have inner := derivation.isInner token.kind (List.mem_map_of_mem member)
    rw [unknown] at inner
    cases inner
  have kinds := map_kind_tokenize_bare known noComment
  have forms : FormsValue (tokenize ("$(" ++ body ++ ")")) value :=
    ⟨size + 1, small, .sum (.operand (kinds ▸ .referred derivation))⟩
  exact parse_send otherBlank (toList_bare body) (by decide) forms

/-- A body with a parenthesis and a reference in a string of its own. -/
def nestedBody : String :=
  "pick('a) $(user)', 2 - 1)"

/-- A call with a parenthesis and a reference in quotes, once without a space behind the keyword and
once without the quotes. -/
theorem parse_bare_nested :
    ∃ program, parse 0 ("send" ++ "" ++ ("\"$(" ++ nestedBody ++ ")\"")) = .ok program ∧
      program.render = "send pick(\"a) $(user)\", 2 - 1)\n" ∧
      parse 0 ("send" ++ "  " ++ ("$(" ++ nestedBody ++ ")")) = .ok program := by
  have accepted : (parse 0 ("send" ++ "" ++ ("\"$(" ++ nestedBody ++ ")\""))).toOption.map render =
      some "send pick(\"a) $(user)\", 2 - 1)\n" := by
    decide +kernel
  have quoted : (tokenize ("\"$(" ++ nestedBody ++ ")\"")).map Token.kind =
      [.literal [.reference nestedBody]] := by
    decide +kernel
  obtain ⟨program, parsed, printed⟩ := exists_parse_of_render accepted
  exact ⟨program, parsed, printed,
    parse_bare (by decide +kernel) quoted (by decide) parsed "  " (by decide)⟩

end Program

end ChatScript
