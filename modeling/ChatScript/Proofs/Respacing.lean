import ChatScript.Proofs.NormalForm
import ChatScript.Proofs.Orderly

/-! # Layout is not significant

A token that the lexer knows ends by itself: its characters are read as the same token when a space
or nothing follows them (`Lexed.recurs_read`). So the lexemes of a text with single spaces between
them have the same tokens as the text, on the same lines, whatever blanks and comments stood between
them (`tokensFrom_respaced`). An unknown token need not end by itself: an opening quote without a
closing one goes on to the end of its line.

An accepted script has no unknown token, so it may be laid out anew (`Program.parse_respaced`).
-/

namespace ChatScript

/-! ## Tokens end by themselves -/

/-- What follows a token is a space, or nothing. -/
def EndsToken (rest : List Char) : Prop :=
  ∀ c ∈ rest.head?, c = ' '

theorem EndsToken.endsWord {rest : List Char} (ends : EndsToken rest) : EndsWord rest := by
  intro c first
  rw [ends c first]
  decide

namespace Lexed

/-- A token in front of another rest. -/
def before (lexed : Lexed) (rest : List Char) : Lexed :=
  { lexed with rest }

/-- The token that a reader takes off the front of a text is read again from its own characters. -/
def Recurs (reader : List Char → Lexed) (cs : List Char) : Prop :=
  (reader cs).kind ≠ .unknown → ∀ rest, EndsToken rest →
    reader ((reader cs).tail ++ rest) = (reader cs).before rest

theorem recurs_ite {condition : Prop} [Decidable condition] {first second : List Char → Lexed}
    {cs : List Char} (yes : condition → Recurs first cs) (no : ¬condition → Recurs second cs) :
    Recurs (fun cs => if condition then first cs else second cs) cs := by
  by_cases holds : condition
  · simpa only [if_pos holds] using yes holds
  · simpa only [if_neg holds] using no holds

theorem recurs_mark (kind : TokenKind) (cs : List Char) : Recurs (fun cs => ⟨kind, [], cs⟩) cs :=
  fun _ _ _ => rfl

/-- A mark without an equals sign behind it is read on its own. -/
theorem withEquals_alone {cs : List Char} (noEquals : cs.head? ≠ some '=')
    (alone extended : TokenKind) : withEquals alone extended cs = ⟨alone, [], cs⟩ := by
  unfold withEquals
  split
  · exact absurd rfl noEquals
  · rfl

/-- A mark is read again with its equals sign or, since a space follows, without one. -/
theorem recurs_withEquals (alone extended : TokenKind) (cs : List Char) :
    Recurs (withEquals alone extended) cs := by
  intro _ rest ends
  by_cases equals : cs.head? = some '='
  · obtain ⟨behind, rfl⟩ := List.head?_eq_some_iff.mp equals
    rfl
  · have noEquals : rest.head? ≠ some '=' := fun first => absurd (ends '=' first) (by decide)
    rw [withEquals_alone equals, List.nil_append, withEquals_alone noEquals]
    rfl

/-- A word or a number is read again, since a space ends it. -/
theorem recurs_run {belongs : Char → Bool} (narrow : ∀ c, belongs c → isWordChar c)
    (kind : List Char → TokenKind) (c : Char) (cs : List Char) :
    Recurs (run kind belongs c) cs := by
  intro _ rest ends
  have inside : ∀ d ∈ cs.takeWhile belongs, belongs d := List.all_eq_true.mp List.all_takeWhile
  obtain ⟨taken, left⟩ := takeWhile_append_of_endsWord inside narrow ends.endsWord
  dsimp only [run, before]
  rw [taken, left]

/-- Quoted text is read again with its closing mark. -/
theorem recurs_quoted {quote : Char} (isQuote : quote = '"' ∨ quote = '\'') (cs : List Char) :
    Recurs (quoted quote) cs := by
  intro known rest _
  cases read : readQuoted quote cs with
  | none =>
      simp only [quoted, read] at known
      exact absurd rfl known
  | some found =>
      obtain ⟨pieces, behind⟩ := found
      have again := readQuoted_local isQuote read rest
      simp only [quoted, read, before, List.append_assoc, List.singleton_append, again]

/-- A token is read again from its own characters, unless it is unknown. -/
theorem recurs_read (c : Char) (cs : List Char) : Recurs (read c) cs := by
  have applied : read c = fun cs => read c cs := rfl
  rw [applied]
  unfold read
  iterate 6 refine recurs_ite (fun _ => recurs_mark _ cs) fun _ => ?_
  iterate 4 refine recurs_ite (fun _ => recurs_withEquals _ _ cs) fun _ => ?_
  refine recurs_ite (fun isQuote => recurs_quoted isQuote cs) fun _ => ?_
  refine recurs_ite (fun _ => recurs_run (fun _ => isWordChar_of_isDigit) _ c cs) fun _ => ?_
  refine recurs_ite (fun _ => recurs_run (fun _ => id) _ c cs) fun _ => ?_
  exact recurs_mark _ cs

end Lexed

/-! ## Lexemes with single spaces -/

/-- The lexemes of tokens with single spaces between them. -/
def respaced (tokens : List Token) : String :=
  " ".intercalate (tokens.map Token.lexeme)

/-- Behind a lexeme there is a space or nothing, and then the lexemes of the other tokens. -/
theorem exists_gap_respaced (token : Token) (tokens : List Token) :
    ∃ gap, gap.all isGap ∧ EndsToken (gap ++ (respaced tokens).toList) ∧
      (respaced (token :: tokens)).toList =
        token.lexeme.toList ++ (gap ++ (respaced tokens).toList) := by
  cases tokens with
  | nil => exact ⟨[], rfl, by simp [EndsToken, respaced], by simp [respaced]⟩
  | cons next tokens =>
      exact ⟨[' '], rfl, by simp [EndsToken], by simp [respaced, String.toList_intercalate]⟩

/-- The tokens of a text are found again in their lexemes, on the same lines. -/
theorem tokensFrom_respaced (line : Nat) (cs : List Char)
    (known : ∀ token ∈ tokensFrom line cs, token.kind ≠ .unknown) :
    tokensFrom line (respaced (tokensFrom line cs)).toList = tokensFrom line cs := by
  fun_induction tokensFrom line cs with
  | case1 line => exact tokensFrom.eq_1 line
  | case2 line rest ih | case3 line c rest noComment gap ih => exact ih known
  | case4 line rest noComment noGap ih =>
      rw [List.forall_mem_cons] at known
      obtain ⟨gap, blank, -, written⟩ :=
        exists_gap_respaced ⟨.newline, "\n", line⟩ (tokensFrom (line + 1) rest)
      -- The lexeme is the newline, so the other lexemes start on the next line.
      have newline : ("\n" : String).toList = ['\n'] := rfl
      rw [written, newline, List.singleton_append, tokensFrom_newline, tokensFrom_gap blank,
        ih known.2]
  | case5 line c rest noComment noGap noNewline token ih =>
      rw [List.forall_mem_cons] at known
      obtain ⟨gap, blank, ends, written⟩ := exists_gap_respaced
        ⟨token.kind, String.ofList (c :: token.tail), line⟩ (tokensFrom line token.rest)
      have again := Lexed.recurs_read c rest known.1 _ ends
      rw [written, String.toList_ofList, List.cons_append, tokensFrom, if_neg noComment,
        if_neg noGap, if_neg noNewline, again]
      dsimp only [Lexed.before]
      rw [tokensFrom_gap blank, ih known.2]

namespace Program

/-- The tokens of an accepted script are known. -/
theorem known_of_parse {limit : Nat} {source : String} {program : Program}
    (parsed : parse limit source = .ok program) :
    ∀ token ∈ tokenize source, token.kind ≠ .unknown := by
  intro token member unknown
  apply (orderly_of_parse parsed).unknown_not_mem
  rw [← map_kind_tokenize, ← unknown]
  exact List.mem_map_of_mem member

/-- **Layout is not significant.** A source without unknown tokens has the same tokens, line numbers
included, as its lexemes with single spaces between them. An accepted source has no unknown token,
and without its comments and with its tokens spaced in this way it is the same program. -/
theorem parse_respaced (source : String) :
    ((∀ token ∈ tokenize source, token.kind ≠ .unknown) →
        tokenize (respaced (tokenize source)) = tokenize source) ∧
      ∀ limit program, parse limit source = .ok program →
        (∀ token ∈ tokenize source, token.kind ≠ .unknown) ∧
          parse limit (respaced (tokenize source)) = .ok program := by
  have found (known : ∀ token ∈ tokenize source, token.kind ≠ .unknown) :
      tokenize (respaced (tokenize source)) = tokenize source :=
    tokensFrom_respaced 1 source.toList known
  refine ⟨found, fun limit program parsed => ?_⟩
  have known := known_of_parse parsed
  refine ⟨known, ?_⟩
  rw [parse_eq_ok_iff, found known]
  exact parse_eq_ok_iff.mp parsed

/-- A script with comments, a tab and hardly a space. -/
def cramped : String :=
  "# greet\n\tset n=1#one\nwhen n!=-2then send'$(pick(\"a)\"))\\'s'end"

/-- Where a script has hardly a space, its lexemes are still the same with spaces between them. -/
theorem parse_respaced_cramped :
    respaced (tokenize cramped) =
        "\n set n = 1 \n when n != - 2 then send '$(pick(\"a)\"))\\'s' end" ∧
      tokenize (respaced (tokenize cramped)) = tokenize cramped ∧
      ∃ program, parse 1 cramped = .ok program ∧
        program.render =
          "set n 1\nwhen n != -2 then\n  send \"$(pick(\"a)\"))'s\"\nend\n" ∧
        parse 1 (respaced (tokenize cramped)) = .ok program := by
  have accepted : (parse 1 cramped).toOption.map render =
      some "set n 1\nwhen n != -2 then\n  send \"$(pick(\"a)\"))'s\"\nend\n" := by
    decide +kernel
  obtain ⟨program, parsed, printed⟩ := exists_parse_of_render accepted
  have kept := (parse_respaced cramped).2 1 program parsed
  exact ⟨by decide +kernel, (parse_respaced cramped).1 kept.1, program, parsed, printed, kept.2⟩

end Program

end ChatScript
