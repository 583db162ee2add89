import ChatScript.Proofs.Completeness
import ChatScript.Proofs.Layout

/-! # The tokens of accepted scripts

What the parser accepts is made of tokens that the lexer knows, and a keyword that opens a statement
is never the last token of its line (`Orderly`, `orderly_of_parse`). The first of these keywords
comes before everything else but newlines (`StartsStatement`).
-/

namespace ChatScript

/-- Whether a statement can start with a keyword. -/
def Keyword.opens : Keyword → Bool
  | .set | .send | .when => true
  | _ => false

/-- No token is unknown, and behind a keyword that opens a statement the line goes on. -/
def Orderly : List TokenKind → Prop
  | [] => True
  | kind :: kinds =>
    kind ≠ .unknown ∧
      (∀ word, kind = .keyword word → word.opens → ∃ next ∈ kinds.head?, next ≠ .newline) ∧
      Orderly kinds

namespace Orderly

variable {kind : TokenKind} {kinds others : List TokenKind} {word : Keyword}

theorem other (known : kind ≠ .unknown) (noWord : ∀ word, kind ≠ .keyword word)
    (orderly : Orderly kinds) : Orderly (kind :: kinds) :=
  ⟨known, fun word isWord => absurd isWord (noWord word), orderly⟩

theorem inner (isInner : kind.isInner) (orderly : Orderly kinds) : Orderly (kind :: kinds) := by
  apply orderly.other
  · rintro rfl
    cases isInner
  · rintro word rfl
    cases isInner

/-- The tokens of an expression are orderly. -/
theorem of_isInner (inner : ∀ kind ∈ kinds, kind.isInner) : Orderly kinds := by
  induction kinds with
  | nil => trivial
  | cons kind kinds ih =>
      rw [List.forall_mem_cons] at inner
      exact (ih inner.2).inner inner.1

theorem newline (orderly : Orderly kinds) : Orderly (.newline :: kinds) :=
  orderly.other (by simp) (by simp)

/-- A keyword that opens no statement may be put in front of anything. -/
theorem keyword (noStart : word.opens = false) (orderly : Orderly kinds) :
    Orderly (.keyword word :: kinds) := by
  refine ⟨by simp, ?_, orderly⟩
  intro word same opens
  cases same
  simp [noStart] at opens

/-- A keyword that opens a statement is to be followed by a token on its line. -/
theorem opening (next : ∃ next ∈ kinds.head?, next ≠ .newline) (orderly : Orderly kinds) :
    Orderly (.keyword word :: kinds) :=
  ⟨by simp, fun _ _ _ => next, orderly⟩

/-- Orderly tokens may be put one behind the other. -/
theorem append (orderly : Orderly kinds) (rest : Orderly others) : Orderly (kinds ++ others) := by
  induction kinds with
  | nil => exact rest
  | cons kind kinds ih =>
      obtain ⟨known, goesOn, orderly⟩ := orderly
      refine ⟨known, ?_, ih orderly⟩
      intro word isWord opens
      obtain ⟨next, first, sameLine⟩ := goesOn word isWord opens
      obtain ⟨behind, rfl⟩ := List.head?_eq_some_iff.mp first
      exact ⟨next, rfl, sameLine⟩

/-- Each line of orderly tokens is orderly. -/
theorem of_append_newline (orderly : Orderly (kinds ++ .newline :: others)) :
    Orderly kinds ∧ Orderly others := by
  induction kinds with
  | nil => exact ⟨trivial, orderly.2.2⟩
  | cons kind kinds ih =>
      obtain ⟨known, goesOn, orderly⟩ := orderly
      obtain ⟨line, rest⟩ := ih orderly
      refine ⟨⟨known, ?_, line⟩, rest⟩
      intro word isWord opens
      obtain ⟨next, first, sameLine⟩ := goesOn word isWord opens
      cases kinds with
      | nil => exact absurd (Option.some.inj first).symm sameLine
      | cons second kinds => exact ⟨next, first, sameLine⟩

/-- There are no unknown tokens among orderly ones. -/
theorem unknown_not_mem (orderly : Orderly kinds) : .unknown ∉ kinds := by
  induction kinds with
  | nil => simp
  | cons kind kinds ih =>
      rw [List.mem_cons, not_or]
      exact ⟨orderly.1.symm, ih orderly.2.2⟩

/-- The tokens of a single line of an orderly text are orderly. -/
theorem line {line cs : List Char} (orderly : Orderly (kindsOf cs)) (member : line ∈ linesOf cs) :
    Orderly (kindsOf line) := by
  induction cs using line_induction with
  | last front oneLine =>
      rw [linesOf_eq_singleton oneLine, List.mem_singleton] at member
      rwa [member]
  | next front rest oneLine ih =>
      rw [kindsOf_append_newline] at orderly
      rw [linesOf_append_newline oneLine, List.mem_cons] at member
      rcases member with rfl | later
      · exact orderly.of_append_newline.1
      · exact ih orderly.of_append_newline.2 later

end Orderly

/-- The tokens of an expression are in order. -/
theorem FormsValue.orderly {tokens : List Token} {value : Expr} (forms : FormsValue tokens value) :
    Orderly (tokens.map Token.kind) :=
  .of_isInner (List.forall_mem_map.mpr forms.isInner)

/-- An expression does not start with a newline. -/
theorem FormsValue.head_ne_newline {tokens : List Token} {value : Expr}
    (forms : FormsValue tokens value) (rest : List TokenKind) :
    ∃ next ∈ (tokens.map Token.kind ++ rest).head?, next ≠ .newline := by
  obtain ⟨size, -, derivation⟩ := forms
  obtain ⟨first, others, kinds, starts⟩ := derivation.starts
  refine ⟨first, by rw [kinds]; rfl, ?_⟩
  rintro rfl
  cases starts

/-- The tokens that a derivation reads are in order, whatever it derives. -/
theorem orderly_of_forms {levels : Nat} {clause : Clause} {tokens : List Token}
    (forms : Forms levels clause tokens) : Orderly (tokens.map Token.kind) := by
  have empty : Orderly [] := trivial
  induction forms with
  | set isSet isName value =>
      rw [List.map_cons, List.map_cons, isSet, isName]
      exact (value.orderly.inner rfl).opening ⟨_, rfl, by simp⟩
  | assign isSet isName isMark value =>
      rw [List.map_cons, List.map_cons, List.map_cons, isSet, isName, isMark]
      exact ((value.orderly.inner rfl).inner rfl).opening ⟨_, rfl, by simp⟩
  | send isSend value =>
      rw [List.map_cons, isSend]
      apply value.orderly.opening
      simpa using value.head_ne_newline []
  | conditional isWhen condition isThen _ isEnd thens =>
      simp only [List.map_cons, List.map_append, List.map_nil, isWhen, isThen, isEnd]
      apply Orderly.opening (condition.head_ne_newline _)
      exact condition.orderly.append ((thens.append (empty.keyword rfl)).keyword rfl)
  | alternative isWhen condition isThen _ isElse _ isEnd thens elses =>
      simp only [List.map_cons, List.map_append, List.map_nil, isWhen, isThen, isElse, isEnd]
      apply Orderly.opening (condition.head_ne_newline _)
      exact condition.orderly.append
        ((thens.append ((elses.append (empty.keyword rfl)).keyword rfl)).keyword rfl)
  | empty => exact empty
  | newline isNewline _ ih =>
      rw [List.map_cons, isNewline]
      exact ih.newline
  | next _ _ first others =>
      rw [List.map_append]
      exact first.append others

/-- The tokens of an accepted script are orderly. -/
theorem orderly_of_parse {limit : Nat} {source : String} {program : Program}
    (parsed : Program.parse limit source = .ok program) : Orderly (kindsOf source.toList) := by
  obtain ⟨-, forms⟩ := Program.parse_eq_ok_iff_forms.mp parsed
  exact orderly_of_forms forms

/-- The first token that is not a newline is a keyword that opens a statement. -/
inductive StartsStatement : List TokenKind → Prop
  | here {word kinds} : word.opens → StartsStatement (.keyword word :: kinds)
  | newline {kinds} : StartsStatement kinds → StartsStatement (.newline :: kinds)

/-- Whether tokens start a statement is decided by the first of them. -/
theorem StartsStatement.append {kinds : List TokenKind} (starts : StartsStatement kinds)
    (others : List TokenKind) : StartsStatement (kinds ++ others) := by
  induction starts with
  | here opens => exact .here opens
  | newline _ ih => exact .newline ih

/-- Whatever is derived, other than the empty block, starts with a statement. -/
theorem startsStatement_of_forms {levels : Nat} {clause : Clause} {tokens : List Token}
    (forms : Forms levels clause tokens) (some : clause ≠ .block []) :
    StartsStatement (tokens.map Token.kind) := by
  induction forms with
  | set first | assign first | send first | conditional first | alternative first =>
      rw [List.map_cons, first]
      exact .here rfl
  | empty => exact absurd rfl some
  | newline isNewline _ ih =>
      rw [List.map_cons, isNewline]
      exact .newline (ih some)
  | next _ _ first =>
      rw [List.map_append]
      exact (first (by simp)).append _

end ChatScript
