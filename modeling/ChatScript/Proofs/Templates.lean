import ChatScript.Program.Template
import ChatScript.Proofs.Completeness
import ChatScript.Proofs.NormalForm
import ChatScript.Proofs.Scanning

/-! # Templates and string literals

A text means the same as a template and between the quote marks of a string literal, as long as it
has no escapes (`Program.ofTemplate_eq_of_parse`).

Two readers cut the text into pieces. The one for literals stops at the closing mark, and it gives
up where a reference is not closed; up to that mark the one for templates finds the same pieces
(`readTemplate_written`). The references then pass through one parser, under different budgets: each
reference of a template has a budget of its own, so whatever fits the budget of a statement is also
a part of a template (`literalParts_eq_map_templatePart`).
-/

namespace ChatScript

/-! ## Pieces -/

section Pieces

variable {cs : List Char}

/-- A reference in a template is found as it is in quoted text. -/
theorem readTemplate_reference {body rest : List Char}
    (found : readBody 0 none cs = some (body, rest)) :
    readTemplate ('$' :: '(' :: cs) = .reference body :: readTemplate rest := by
  rw [readTemplate]
  split
  · simp_all
  · simp_all

/-- Any other character of a template stands for itself, quote marks and backslashes included. -/
theorem readTemplate_plain {c : Char} (noReference : c = '$' → cs.head? ≠ some '(') :
    readTemplate (c :: cs) = .plain c :: readTemplate cs := by
  rw [readTemplate]
  rintro inner rfl rfl
  exact noReference rfl rfl

/-- Without escapes, quoted text is made of the pieces that a template finds in it. -/
theorem readTemplate_written {quote : Char} {rest : List Char} {pieces : List Piece}
    (read : readQuoted quote cs = some (pieces, rest))
    (noEscape : '\\' ∉ pieces.flatMap Piece.written) :
    readTemplate (pieces.flatMap Piece.written) = pieces := by
  fun_induction readQuoted quote cs generalizing pieces rest with
  | case1 | case2 | case3 | case5 | case7 => simp at read
  | case4 c _ noNewline ih =>
      obtain ⟨⟨inner, after⟩, inside, same⟩ := Option.map_eq_some_iff.mp read
      cases same
      simp [Piece.written] at noEscape
  | case6 inner body after found ih =>
      obtain ⟨⟨others, last⟩, inside, same⟩ := Option.map_eq_some_iff.mp read
      cases same
      rw [List.flatMap_cons, List.mem_append, not_or] at noEscape
      have again := readBody_local found (others.flatMap Piece.written)
      simp [Piece.written, readTemplate_reference again, ih inside noEscape.2]
  | case8 =>
      cases read
      rw [List.flatMap_nil, readTemplate]
  | case9 c after notAlone notEscape notReference noNewline noQuote ih =>
      obtain ⟨⟨others, last⟩, inside, same⟩ := Option.map_eq_some_iff.mp read
      cases same
      rw [List.flatMap_cons, List.mem_append, not_or] at noEscape
      -- The closing quote mark is no parenthesis, so a dollar sign in front of it starts nothing.
      have noReference : c = '$' → (others.flatMap Piece.written).head? ≠ some '(' := by
        intro isDollar opens
        obtain ⟨inner, written⟩ := List.head?_eq_some_iff.mp opens
        refine notReference (inner ++ quote :: last) isDollar ?_
        rw [readQuoted_eq_some inside, written, List.cons_append]
      simp [Piece.written, readTemplate_plain noReference, ih inside noEscape.2]

end Pieces

/-! ## Parts -/

/-- A reference that can be derived within the budget of a statement is parsed on its own. -/
theorem embedded_of_derives {body : String} {value : Expr} {size : Nat}
    (derivation : Derives (.target value) ((tokenize body).map Token.kind) size)
    (small : size ≤ maxExpressionSize) : embedded expression 1 body 0 = .ok (value, size) := by
  have read := embedded_of_accepted 0 (maxExpressionSize + 1) 1 derivation
    (accepted_of_derives derivation) (Nat.le_succ_of_le small) (by rwa [Nat.zero_add])
  rwa [Nat.zero_add] at read

/-- A reference that can be derived becomes the expression that it refers to. -/
theorem templatePart_of_derives {body : String} {value : Expr} {size : Nat}
    (derivation : Derives (.target value) ((tokenize body).map Token.kind) size)
    (small : size ≤ maxExpressionSize) : templatePart (.reference body) = value := by
  simp only [templatePart, embedded_of_derives derivation small]

/-- The parts of a string literal are those of a template with the same fragments. -/
theorem literalParts_eq_map_templatePart {nested : Parser Expr}
    (faithful : Faithful nested .expression) {line spent counted : Nat} {fragments : List Fragment}
    {values : List Expr}
    (read : literalParts nested line fragments spent = .ok (values, counted)) :
    values = fragments.map templatePart := by
  induction fragments generalizing spent values with
  | nil =>
      simp only [literalParts, Except.ok.injEq, Prod.mk.injEq] at read
      exact read.1.symm
  | cons fragment fragments ih =>
      cases fragment with
      | text content =>
          simp only [literalParts, bind_eq_ok_iff, Except.ok.injEq, Prod.mk.injEq] at read
          obtain ⟨⟨others, last⟩, inside, rfl, rfl⟩ := read
          rw [List.map_cons, ← ih inside, templatePart]
      | reference body =>
          simp only [literalParts, bind_eq_ok_iff, spend_eq_ok_iff, Except.ok.injEq,
            Prod.mk.injEq] at read
          obtain ⟨_, ⟨room, rfl⟩, ⟨value, middle⟩, first, ⟨others, last⟩, inside, rfl, rfl⟩ := read
          obtain ⟨size, derivation, rfl, within⟩ := embedded_derives faithful first
          have small : size ≤ maxExpressionSize :=
            Nat.le_trans (Nat.le_add_left _ _) (within room)
          rw [List.map_cons, ← ih inside, templatePart_of_derives derivation small]

/-! ## Tokens -/

theorem toList_quoted (content : String) :
    ("\"" ++ content ++ "\"").toList = '"' :: (content.toList ++ ['"']) := by
  simp [String.toList_append]

/-- A whole text that is one string literal is read up to its last character. -/
theorem exists_pieces_of_tokenize {content : String} {fragments : List Fragment}
    (quoted : tokenize ("\"" ++ content ++ "\"") =
      [⟨.literal fragments, "\"" ++ content ++ "\"", 1⟩]) :
    ∃ pieces, readQuoted '"' (content.toList ++ ['"']) = some (pieces, []) ∧
      pieces.flatMap Piece.written = content.toList ∧ fragments = literalFragments pieces := by
  have lexed : Lexed.read '"' (content.toList ++ ['"']) =
      Lexed.quoted '"' (content.toList ++ ['"']) := rfl
  rw [tokenize, toList_quoted, tokensFrom, if_neg (by decide), if_neg (by decide),
    if_neg (by decide), lexed, Lexed.quoted] at quoted
  cases read : readQuoted '"' (content.toList ++ ['"']) with
  | none =>
      rw [read] at quoted
      simp [Lexed.run] at quoted
  | some result =>
      obtain ⟨pieces, rest⟩ := result
      rw [read] at quoted
      simp only [List.cons.injEq, Token.mk.injEq, TokenKind.literal.injEq] at quoted
      obtain ⟨⟨same, lexeme, -⟩, -⟩ := quoted
      have whole := readQuoted_eq_some read
      have written := congrArg String.toList lexeme
      rw [String.toList_ofList, toList_quoted, List.cons.injEq, List.append_cancel_right_eq]
        at written
      rw [written.2, List.append_cancel_left_eq, List.cons.injEq] at whole
      exact ⟨pieces, by rw [whole.2], written.2, same.symm⟩

/-- A word ends where gaps begin, or where it would end without them. -/
theorem endsWord_gap {gap cs : List Char} (blank : gap.all isGap) (ends : EndsWord cs) :
    EndsWord (gap ++ cs) := by
  cases gap with
  | nil => exact ends
  | cons c gap =>
      rw [List.all_cons, Bool.and_eq_true] at blank
      refine endsWord_cons _ ?_ _
      have isBlank := blank.1
      simp only [isGap, Bool.or_eq_true, beq_iff_eq] at isBlank
      rcases isBlank with (rfl | rfl) | rfl <;> decide

/-- The keyword `send` is a token of its own where a word ends behind it. -/
theorem tokensFrom_send {rest : List Char} (ends : EndsWord rest) (line : Nat) :
    tokensFrom line ("send".toList ++ rest) =
      ⟨.keyword .send, "send", line⟩ :: tokensFrom line rest := by
  have spelled : "send".toList = ['s', 'e', 'n', 'd'] := rfl
  have inside : ['e', 'n', 'd'].all isWordChar := by decide
  obtain ⟨taken, left⟩ :=
    takeWhile_append_of_endsWord (List.all_eq_true.mp inside) (fun _ => id) ends
  have word : String.ofList ('s' :: ['e', 'n', 'd']) = "send" := rfl
  have kind : wordKind "send" = .keyword .send := rfl
  rw [spelled, List.cons_append, tokensFrom, if_neg (by decide), if_neg (by decide),
    if_neg (by decide), Lexed.read_word (by decide), Lexed.run, taken, left]
  simp only [word, kind]

/-- A script of a `send` and one more text has the tokens of that text behind the `send`. -/
theorem tokenize_send {gap : String} (blank : gap.toList.all isGap) {c : Char} {text : String}
    {cs : List Char} (spelled : text.toList = c :: cs) (ends : isWordChar c = false) :
    tokenize ("send" ++ gap ++ text) = ⟨.keyword .send, "send", 1⟩ :: tokenize text := by
  rw [tokenize, tokenize, String.append_assoc, String.toList_append, String.toList_append,
    tokensFrom_send (endsWord_gap blank (spelled ▸ endsWord_cons _ ends cs)), tokensFrom_gap blank]

/-! ## Scripts that send one literal -/

/-- A script that sends one string literal is parsed as soon as the parts of the literal are. -/
theorem programOfTokens_send (limit line : Nat) (keyword lexeme : String)
    (fragments : List Fragment) :
    programOfTokens limit
        [⟨.keyword .send, keyword, line⟩, ⟨.literal fragments, lexeme, line⟩] =
      (literalParts (expressionAt maxExpressionSize) line fragments 0).map fun read =>
        ⟨[.send (joinParts read.1) line]⟩ := by
  have step : expression = comparison (expressionAt maxExpressionSize) := rfl
  cases read : literalParts (expressionAt maxExpressionSize) line fragments 0
  all_goals
    simp [programOfTokens, skipNewlines, statementsUpTo, statement, sendStatement, endsStatement,
      statementValue, step, comparison, sum, sumUpTo, primary, read, bind, Except.bind, Except.map]

/-- What is known of a script that sends one string literal if it is parsed. -/
theorem Program.exists_parts_of_parse {limit : Nat} {source keyword lexeme : String}
    {fragments : List Fragment} {program : Program}
    (tokens : tokenize source =
      [⟨.keyword .send, keyword, 1⟩, ⟨.literal fragments, lexeme, 1⟩])
    (parsed : parse limit source = .ok program) :
    ∃ values counted, program = ⟨[.send (joinParts values) 1]⟩ ∧
      literalParts (expressionAt maxExpressionSize) 1 fragments 0 = .ok (values, counted) := by
  rw [parse_eq_ok_iff, tokens, programOfTokens_send] at parsed
  cases parts : literalParts (expressionAt maxExpressionSize) 1 fragments 0 with
  | error fault =>
      rw [parts] at parsed
      cases parsed
  | ok result =>
      rw [parts] at parsed
      cases parsed
      exact ⟨result.1, result.2, rfl, rfl⟩

/-- A text without newlines and without blanks at its ends is the line of its template. -/
theorem templateLine_eq {content : String} (oneLine : '\n' ∉ content.toList)
    (front : ∀ c ∈ content.toList.head?, Text.isBlank c = false)
    (back : ∀ c ∈ content.toList.getLast?, Text.isBlank c = false) :
    templateLine content = content.toList := by
  rw [templateLine, Text.lines_of_no_newline oneLine]
  cases empty : content.toList with
  | nil => rfl
  | cons c cs =>
      rw [← empty]
      have some : content.toList.isEmpty = false := by rw [empty, List.isEmpty_cons]
      simp [some, Text.trim_of_no_blank front back, List.intercalate]

/-- A text without escapes that a script can send between quote marks is, as a template, the same
program. Between its marks the text is a single token, from the first mark to the last. -/
theorem Program.ofTemplate_eq_of_parse {limit : Nat} {content gap : String}
    {fragments : List Fragment} {program : Program} (oneLine : '\n' ∉ content.toList)
    (noEscape : '\\' ∉ content.toList)
    (front : ∀ c ∈ content.toList.head?, Text.isBlank c = false)
    (back : ∀ c ∈ content.toList.getLast?, Text.isBlank c = false)
    (quoted : tokenize ("\"" ++ content ++ "\"") =
      [⟨.literal fragments, "\"" ++ content ++ "\"", 1⟩])
    (blank : gap.toList.all isGap)
    (parsed : parse limit ("send" ++ gap ++ ("\"" ++ content ++ "\"")) = .ok program) :
    ofTemplate content = program := by
  obtain ⟨pieces, read, written, rfl⟩ := exists_pieces_of_tokenize quoted
  have found : templateFragments (templateLine content) = Piece.join pieces := by
    rw [templateLine_eq oneLine front back, templateFragments, ← written,
      readTemplate_written read (written ▸ noEscape)]
  have value : templateValue content = joinParts ((literalFragments pieces).map templatePart) := by
    rw [templateValue, found, literalFragments]
    cases Piece.join pieces <;> rfl
  have tokens := tokenize_send blank (toList_quoted content) (by decide)
  rw [quoted] at tokens
  obtain ⟨values, counted, rfl, parts⟩ := exists_parts_of_parse tokens parsed
  rw [ofTemplate, value, ← literalParts_eq_map_templatePart (faithful_expressionAt _) parts]

/-- A text in which a parenthesis in quotes does not end a reference, and a dollar sign starts
none. -/
def greeting : String :=
  "hi $(user), $(pick(\"a)\", 1 + count()))$"

/-- A template with a call that has a parenthesis in a string and a count in its arguments, and with
a dollar sign at its end. -/
theorem Program.ofTemplate_eq_of_parse_greeting :
    ∃ program, parse 0 ("send" ++ " " ++ ("\"" ++ greeting ++ "\"")) = .ok program ∧
      program.render = "send \"hi $(user), $(pick(\"a)\", 1 + count()))\\$\"\n" ∧
      ofTemplate greeting = program := by
  have accepted : (parse 0 ("send" ++ " " ++ ("\"" ++ greeting ++ "\""))).toOption.map render =
      some "send \"hi $(user), $(pick(\"a)\", 1 + count()))\\$\"\n" := by
    decide +kernel
  have quoted : tokenize ("\"" ++ greeting ++ "\"") =
      [⟨.literal [.text "hi ", .reference "user", .text ", ",
        .reference "pick(\"a)\", 1 + count())", .text "$"], "\"" ++ greeting ++ "\"", 1⟩] := by
    decide +kernel
  have front : ∀ c ∈ greeting.toList.head?, Text.isBlank c = false := by
    rintro _ ⟨⟩
    rfl
  have back : ∀ c ∈ greeting.toList.getLast?, Text.isBlank c = false := by
    rintro _ ⟨⟩
    rfl
  obtain ⟨program, parsed, printed⟩ := exists_parse_of_render accepted
  exact ⟨program, parsed, printed, ofTemplate_eq_of_parse (by decide +kernel) (by decide +kernel)
    front back quoted (by decide) parsed⟩

end ChatScript
