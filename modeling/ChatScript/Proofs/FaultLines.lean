import ChatScript.Program.Parser
import ChatScript.Proofs.Layout
import Mathlib.Data.List.DropRight

/-! # Where faults are found

A fault lies on a line of the source. The parser takes the line of a fault from a token: the one
that does not fit, the keyword of the statement, or the last one of the source. It reads the tokens
front to back, so what it has left stands on the same lines as what it was given, and a parser that
`KeepsTo` some lines finds its faults there. The body of a reference is cut into tokens of its own,
but they count as standing on the line of the string literal, and so does the end of the body
(`answers_embedded`).

The text of the line is looked up by a rule that takes a carriage return for a part of a line break
and knows no line behind a last newline. Without the carriage returns at its end, every line is the
same as between the newlines of the source (`ParseError.lineOf_eq`).
-/

namespace ChatScript

/-! ## Lines of tokens -/

/-- Tokens stand on the given lines. -/
def StandOn (onLine : Nat → Prop) (tokens : List Token) : Prop :=
  ∀ token ∈ tokens, onLine token.line

/-- A fault is found on one of the given lines, or where the input ends. -/
def Fault.LiesOn (onLine : Nat → Prop) (fault : Fault) : Prop :=
  ∀ number, fault.place = .line number → onLine number

/-- A step of the parser returns what it should, or finds a fault on one of the given lines. -/
def Answers {α : Type} (onLine : Nat → Prop) (good : α → Prop) : Except Fault α → Prop
  | .ok value => good value
  | .error fault => fault.LiesOn onLine

/-- A parser of expressions that is given tokens on the lines finds its faults there, and leaves
tokens on the lines. -/
def KeepsTo {α : Type} (onLine : Nat → Prop) (parser : Parser α) : Prop :=
  ∀ cursor, StandOn onLine cursor.rest →
    Answers onLine (fun read => StandOn onLine read.2.rest) (parser cursor)

/-- A parser of statements does so. -/
def BlockKeepsTo {α : Type} (onLine : Nat → Prop) (parser : BlockParser α) : Prop :=
  ∀ tokens, StandOn onLine tokens →
    Answers onLine (fun read => StandOn onLine read.2) (parser tokens)

variable {onLine : Nat → Prop}

/-- A sequence finds its faults on the lines if its steps do, each given what the one before should
return. -/
theorem Answers.bind {α β : Type} {good : α → Prop} {fine : β → Prop} {first : Except Fault α}
    {next : α → Except Fault β} (start : Answers onLine good first)
    (goesOn : ∀ value, good value → Answers onLine fine (next value)) :
    Answers onLine fine (first >>= next) := by
  cases first with
  | error fault => exact start
  | ok value => exact goesOn value start

namespace StandOn

variable {token : Token} {tokens others : List Token}

theorem mono (stand : StandOn onLine tokens) (fewer : others ⊆ tokens) : StandOn onLine others :=
  fun token member => stand token (fewer member)

theorem head (stand : StandOn onLine (token :: tokens)) : onLine token.line :=
  stand token (List.mem_cons_self ..)

theorem tail (stand : StandOn onLine (token :: tokens)) : StandOn onLine tokens :=
  stand.mono (List.subset_cons_self ..)

theorem skipAssign (stand : StandOn onLine tokens) : StandOn onLine (skipAssign tokens) := by
  unfold ChatScript.skipAssign
  split
  · exact stand.tail
  · exact stand

theorem skipNewlines (stand : StandOn onLine tokens) : StandOn onLine (skipNewlines tokens) :=
  stand.mono (List.dropWhile_subset _)

end StandOn

namespace Fault

theorem liesOn_line {number : Nat} (stands : onLine number) (complaint : Complaint) :
    LiesOn onLine ⟨.line number, complaint⟩ := by
  rintro _ ⟨⟩
  exact stands

/-- A token that does not fit is found on its own line. -/
theorem liesOn_unexpected {tokens : List Token} (stand : StandOn onLine tokens)
    (setting : Setting) : (unexpected setting tokens).LiesOn onLine := by
  cases tokens with
  | nil =>
      intro number place
      cases place
  | cons token tokens =>
      rw [unexpected]
      split
      · exact liesOn_line stand.head _
      · exact liesOn_line stand.head _

theorem LiesOn.lineIn {fault : Fault} (lies : fault.LiesOn onLine) {last : Nat}
    (stands : onLine last) : onLine (fault.place.lineIn last) := by
  cases place : fault.place with
  | line number => exact lies number place
  | endOfInput => exact stands

end Fault

open Fault

/-- A budget that is used up is found on the line of the statement. -/
theorem answers_spend {line : Nat} (stands : onLine line) (spent : Nat) :
    Answers onLine (fun _ => True) (spend line spent) := by
  unfold spend
  split
  · trivial
  · exact liesOn_line stands _

/-- A cursor that cannot spend any more finds that on the line it is given. -/
theorem answers_grow {line : Nat} (stands : onLine line) (cursor : Cursor) :
    Answers onLine (fun grown => grown.rest = cursor.rest) (cursor.grow line) :=
  (answers_spend stands cursor.spent).bind fun _ _ => rfl

/-- A parenthesis that is missing is found where another token stands, or at the end. -/
theorem answers_close (setting : Setting) {cursor : Cursor} (stand : StandOn onLine cursor.rest) :
    Answers onLine (fun closed => StandOn onLine closed.rest) (cursor.close setting) := by
  unfold Cursor.close
  split
  · rename_i found
    rw [found] at stand
    exact stand.tail
  · exact liesOn_unexpected stand setting

section Expressions

variable {nested : Parser Expr} (keeps : KeepsTo onLine nested)

include keeps

/-- Arguments find their faults on the lines of their tokens. -/
theorem keepsTo_argumentsUpTo (function : String) (bound : List Token) :
    KeepsTo onLine (argumentsUpTo nested function bound) := by
  induction bound with
  | nil => exact fun cursor stand => liesOn_unexpected stand .expression
  | cons _ bound ih =>
      intro cursor stand
      rw [argumentsUpTo]
      refine (keeps cursor stand).bind ?_
      rintro ⟨argument, tokens, spent⟩ stand
      dsimp only at stand ⊢
      split
      · exact (ih _ stand.tail).bind fun _ rest => rest
      · exact stand.tail
      · exact liesOn_unexpected stand _

/-- Calls find their faults on the lines of their tokens and on that of the name. -/
theorem keepsTo_call (function : String) {line : Nat} (stands : onLine line) :
    KeepsTo onLine (call nested function line) := by
  rintro ⟨tokens, spent⟩ stand
  refine (answers_grow stands _).bind ?_
  rintro ⟨_, spent⟩ rfl
  dsimp only at stand ⊢
  split
  · exact stand.tail
  · exact (keepsTo_argumentsUpTo keeps function _ _ stand).bind fun _ rest => rest

theorem keepsTo_target : KeepsTo onLine (target nested) := by
  rintro ⟨tokens, spent⟩ stand
  unfold target
  dsimp only at stand ⊢
  split
  · exact keepsTo_call keeps _ stand.tail.head _ stand.tail.tail
  · exact stand.tail
  · exact stand.tail
  · exact liesOn_unexpected stand _

/-- The tokens of a reference in a string literal count as standing on the line of the literal. -/
theorem answers_embedded {line : Nat} (stands : onLine line) (body : String) (spent : Nat) :
    Answers onLine (fun _ => True) (embedded nested line body spent) := by
  have stand : StandOn onLine ((tokenize body).map fun token => { token with line }) :=
    List.forall_mem_map.mpr fun _ _ => stands
  have inside := keepsTo_target keeps ⟨_, spent⟩ stand
  unfold embedded
  split
  · exact liesOn_line stands _
  · split
    · rename_i failed
      rw [failed] at inside
      exact liesOn_line (inside.lineIn stands) _
    · trivial
    · exact liesOn_line stands _

/-- The parts of a literal find their faults on the line of the literal. -/
theorem answers_literalParts {line : Nat} (stands : onLine line) (fragments : List Fragment)
    (spent : Nat) : Answers onLine (fun _ => True) (literalParts nested line fragments spent) := by
  induction fragments generalizing spent with
  | nil => trivial
  | cons fragment fragments ih =>
      cases fragment with
      | text content => exact (ih spent).bind fun _ _ => trivial
      | reference body =>
          refine (answers_spend stands spent).bind fun spent _ => ?_
          refine (answers_embedded keeps stands body spent).bind fun read _ => ?_
          exact (ih read.2).bind fun _ _ => trivial

theorem keepsTo_primary : KeepsTo onLine (primary nested) := by
  rintro ⟨tokens, spent⟩ stand
  unfold primary
  dsimp only at stand ⊢
  split
  · exact liesOn_unexpected stand _
  · rename_i token rest
    -- The kinds of the first token, in the order in which the parser tells them apart.
    split
    · exact (answers_literalParts keeps stand.head _ spent).bind fun _ _ => stand.tail
    · exact stand.tail
    · exact stand.tail
    · split
      · exact stand.tail.tail
      · exact liesOn_line stand.head _
    · split
      · exact keepsTo_call keeps _ stand.tail.head _ stand.tail.tail
      · exact stand.tail
    · refine (answers_grow stand.head _).bind fun next same => ?_
      split
      · refine (keepsTo_target keeps _ stand.tail.tail).bind fun read stand => ?_
        exact (answers_close _ stand).bind fun _ rest => rest
      · exact liesOn_line stand.head _
    · refine (answers_grow stand.head _).bind fun next same => ?_
      refine (keeps next (same ▸ stand.tail)).bind fun read stand => ?_
      exact (answers_close _ stand).bind fun _ rest => rest
    · exact liesOn_line stand.head _
    · exact liesOn_unexpected stand _

theorem keepsTo_sumUpTo (bound : List Token) (left : Expr) :
    KeepsTo onLine (sumUpTo nested bound left) := by
  induction bound generalizing left with
  | nil => exact fun cursor stand => stand
  | cons _ bound ih =>
      rintro ⟨tokens, spent⟩ stand
      rw [sumUpTo]
      dsimp only at stand ⊢
      split
      · exact stand
      · split
        · exact stand
        · refine (answers_grow stand.head _).bind fun grown _ => ?_
          exact (keepsTo_primary keeps _ stand.tail).bind fun read rest => ih _ read.2 rest

theorem keepsTo_sum : KeepsTo onLine (sum nested) := fun cursor stand =>
  (keepsTo_primary keeps cursor stand).bind fun read rest => keepsTo_sumUpTo keeps _ _ read.2 rest

theorem keepsTo_comparison : KeepsTo onLine (comparison nested) := by
  intro cursor stand
  refine (keepsTo_sum keeps cursor stand).bind ?_
  rintro ⟨left, tokens, spent⟩ stand
  dsimp only at stand ⊢
  split
  · exact stand
  · split
    · exact stand
    · refine (answers_grow stand.head _).bind fun grown _ => ?_
      exact (keepsTo_sum keeps _ stand.tail).bind fun _ rest => rest

end Expressions

/-- Expressions find their faults on the lines of their tokens, at every level. -/
theorem keepsTo_expressionAt (levels : Nat) : KeepsTo onLine (expressionAt levels) := by
  induction levels with
  | zero => exact fun cursor stand => liesOn_unexpected stand .expression
  | succ levels ih => exact keepsTo_comparison ih

theorem keepsTo_statementValue : BlockKeepsTo onLine statementValue := fun tokens stand =>
  (keepsTo_expressionAt _ ⟨tokens, 0⟩ stand).bind fun _ rest => rest

section Statements

variable {line : Nat} (stands : onLine line)

include stands

/-- Setting a variable finds its faults on the lines of its tokens and of its keyword. -/
theorem keepsTo_setStatement : BlockKeepsTo onLine (setStatement line) := by
  intro tokens stand
  unfold setStatement
  split
  · split
    · exact liesOn_line stands _
    · exact (keepsTo_statementValue _ stand.tail.skipAssign).bind fun _ rest => rest
  · exact liesOn_line stands _

theorem keepsTo_sendStatement : BlockKeepsTo onLine (sendStatement line) := by
  intro tokens stand
  unfold sendStatement
  split
  · exact liesOn_line stands _
  · exact (keepsTo_statementValue tokens stand).bind fun _ rest => rest

/-- A conditional finds its faults where its condition and its blocks do, or on the line of its
keyword. -/
theorem keepsTo_whenStatement {block : BlockParser (List Statement)}
    (keeps : BlockKeepsTo onLine block) : BlockKeepsTo onLine (whenStatement block line) := by
  intro tokens stand
  unfold whenStatement
  split
  · exact liesOn_line stands _
  · refine (keepsTo_statementValue tokens stand).bind ?_
    rintro ⟨condition, tokens⟩ stand
    dsimp only at stand ⊢
    split
    · refine (keeps _ stand.tail).bind ?_
      rintro ⟨thenBranch, tokens⟩ stand
      dsimp only at stand ⊢
      split
      · refine (keeps _ stand.tail).bind ?_
        rintro ⟨elseBranch, tokens⟩ stand
        dsimp only at stand ⊢
        split
        · exact liesOn_line stand.head _
        · exact stand.tail
        · exact liesOn_line stands _
      · exact stand.tail
      · exact liesOn_line stands _
    · exact liesOn_line stands _

end Statements

section Blocks

variable {whenParser : Nat → BlockParser Statement}
  (keeps : ∀ line, onLine line → BlockKeepsTo onLine (whenParser line))

include keeps

theorem answers_statement {token : Token} {rest : List Token}
    (stand : StandOn onLine (token :: rest)) :
    Answers onLine (fun read => StandOn onLine read.2) (statement whenParser token rest) := by
  unfold statement
  split
  · exact keepsTo_setStatement stand.head rest stand.tail
  · exact keeps token.line stand.head rest stand.tail
  · exact keepsTo_sendStatement stand.head rest stand.tail
  · exact liesOn_line stand.head _
  · exact liesOn_line stand.head _
  · exact liesOn_line stand.head _

/-- A block finds its faults where its statements do. -/
theorem keepsTo_statementsUpTo (stops : Token → Bool) (bound : List Token) :
    BlockKeepsTo onLine (statementsUpTo whenParser stops bound) := by
  induction bound with
  | nil => exact fun tokens stand => stand
  | cons _ bound ih =>
      intro tokens stand
      have visible := stand.skipNewlines
      unfold statementsUpTo
      split
      · rename_i skipped
        rwa [skipped] at visible
      · rename_i token rest skipped
        rw [skipped] at visible
        split
        · exact visible
        · refine (answers_statement keeps visible).bind ?_
          rintro ⟨first, rest⟩ stand
          dsimp only at stand ⊢
          split
          · exact (ih rest stand).bind fun _ rest => rest
          · exact liesOn_unexpected stand _

end Blocks

/-- Conditionals find their faults on the lines of their tokens, at every level. -/
theorem keepsTo_whenAt (limit levels line : Nat) (stands : onLine line) :
    BlockKeepsTo onLine (whenAt limit levels line) := by
  induction levels generalizing line with
  | zero => exact fun tokens _ => liesOn_line stands _
  | succ levels ih =>
      exact keepsTo_whenStatement stands fun tokens =>
        keepsTo_statementsUpTo ih endsBranch tokens tokens

/-- A program finds its faults on the lines of its tokens, or on the first line if it has none. -/
theorem answers_programOfTokens (limit : Nat) {tokens : List Token}
    (stand : StandOn onLine tokens) (first : onLine 1) :
    Answers onLine (fun _ => True) (programOfTokens limit tokens) := by
  unfold programOfTokens
  split
  · exact liesOn_line first _
  · exact (keepsTo_statementsUpTo (keepsTo_whenAt limit limit) _ _ _ stand.skipNewlines).bind
      fun _ _ => trivial

/-! ## Lines of the source -/

theorem length_linesOf (cs : List Char) : (linesOf cs).length = 1 + cs.count '\n' := by
  induction cs using line_induction with
  | last line oneLine =>
      rw [linesOf_eq_singleton oneLine, List.count_eq_zero_of_not_mem oneLine]
      rfl
  | next line rest oneLine ih =>
      rw [linesOf_append_newline oneLine, List.length_cons, ih, List.count_append,
        List.count_eq_zero_of_not_mem oneLine, List.count_cons_self]
      omega

/-- The lines of a text are what stands between its newlines. -/
theorem linesOf_eq_splitOn (cs : List Char) : linesOf cs = cs.splitOn '\n' := by
  induction cs using line_induction with
  | last line oneLine =>
      rw [linesOf_eq_singleton oneLine, List.splitOn_eq_singleton oneLine]
  | next line rest oneLine ih =>
      rw [linesOf_append_newline oneLine, ih, List.splitOn_eq_splitOnP, List.splitOn_eq_splitOnP,
        List.splitOnP_append_cons_of_forall_mem (Text.beq_eq_false_of_not_mem oneLine) _ rfl]

/-- The tokens of a text stand on its lines. -/
theorem Layout.standOn {line : Nat} {cs : List Char} {tokens : List Token}
    (layout : Layout line cs tokens) :
    StandOn (fun number => line ≤ number ∧ number ≤ line + cs.count '\n') tokens := by
  induction layout with
  | last => exact List.forall_mem_nil _
  | token _ stands _ ih =>
      simp only [List.count_append]
      refine List.forall_mem_cons.mpr ⟨?_, fun token member => ?_⟩
      · rw [stands.line_eq]
        omega
      · have later := ih token member
        omega

/-- The text of a line of a source, without the carriage returns at its end. -/
theorem ParseError.lineOf_eq {source : String} {line : Nat} {text : List Char}
    (isLine : (source.toList.splitOn '\n')[line - 1]? = some text) :
    lineOf source line = String.ofList (text.rdropWhile (· == '\r')) := by
  have blind (line : List Char) :
      (line ++ ['\r']).rdropWhile (· == '\r') = line.rdropWhile (· == '\r') :=
    List.rdropWhile_concat_pos _ _ _ rfl
  obtain ⟨rest, same, blank⟩ := map_linesOf (·.rdropWhile (· == '\r')) blind source.toList
  -- Where the lookup knows no line, the last line of the source is empty.
  have found : ((Text.lines source.toList).map (·.rdropWhile (· == '\r')) ++ rest)[line - 1]? =
      some (text.rdropWhile (· == '\r')) := by
    rw [← same, List.getElem?_map, linesOf_eq_splitOn, isLine]
    rfl
  refine congrArg String.ofList ?_
  by_cases known : line - 1 < (Text.lines source.toList).length
  · rw [List.getElem?_append_left (by rwa [List.length_map]), List.getElem?_map,
      List.getElem?_eq_getElem known] at found
    rw [List.getElem?_eq_getElem known]
    exact Option.some.inj found
  · rw [Nat.not_lt] at known
    rw [List.getElem?_append_right (by rwa [List.length_map])] at found
    rw [List.getElem?_eq_none known]
    exact (blank _ (List.mem_of_getElem? found)).symm

/-- The end of the input counts as standing on the line of the last token, or on the first line. -/
theorem onLine_endLine {tokens : List Token} (stand : StandOn onLine tokens) (first : onLine 1) :
    onLine (endLine tokens) := by
  unfold endLine
  cases last : tokens.getLast? with
  | none => exact first
  | some token => exact stand token (List.mem_of_getLast? last)

namespace Program

/-- An error reports a fault that the parser found in the tokens of the source. -/
theorem exists_fault_of_parse {limit : Nat} {source : String} {error : ParseError}
    (failed : parse limit source = .error error) :
    ∃ fault, programOfTokens limit (tokenize source) = .error fault ∧
      error = .onLine source (fault.place.lineIn (endLine (tokenize source)))
        fault.complaint.message := by
  unfold parse at failed
  dsimp only at failed
  split at failed
  · cases failed
  · rename_i fault found
    exact ⟨fault, found, (Except.error.inj failed).symm⟩

/-- **Errors point into the source.** The error of a source that is not accepted is on a line of the
source and holds the text of that line, without the carriage returns at its end. -/
theorem parse_error_line {limit : Nat} {source : String} {error : ParseError}
    (failed : parse limit source = .error error) :
    (1 ≤ error.line ∧ error.line ≤ 1 + source.toList.count '\n') ∧
      ∃ text, (source.toList.splitOn '\n')[error.line - 1]? = some text ∧
        error.sourceLine = String.ofList (text.rdropWhile (· == '\r')) := by
  obtain ⟨fault, found, rfl⟩ := exists_fault_of_parse failed
  have stand : StandOn (fun number => 1 ≤ number ∧ number ≤ 1 + source.toList.count '\n')
      (tokenize source) := (layout_tokensFrom 1 source.toList).standOn
  have first : 1 ≤ 1 ∧ 1 ≤ 1 + source.toList.count '\n' := ⟨le_rfl, Nat.le_add_right ..⟩
  have answer := answers_programOfTokens limit stand first
  rw [found] at answer
  have inside := answer.lineIn (onLine_endLine stand first)
  refine ⟨inside, ?_⟩
  have bound : fault.place.lineIn (endLine (tokenize source)) - 1 <
      (source.toList.splitOn '\n').length := by
    rw [← linesOf_eq_splitOn, length_linesOf]
    omega
  have isLine := List.getElem?_eq_getElem bound
  exact ⟨_, isLine, ParseError.lineOf_eq isLine⟩

/-- A script with a call without a comma, in a string in a call in a string. -/
def misnested : String :=
  "send 1\r\nsend \"a$(pick('b$(pick(1 2))'))\"\r\n"

/-- A fault in a reference inside of another one is found on the line of the literal around both. -/
theorem parse_error_line_misnested :
    parse 1 misnested = .error ⟨2, "send \"a$(pick('b$(pick(1 2))'))\"",
        "Unexpected '2' in call to 'pick', expected ',' or ')'"⟩ ∧
      ∃ text, (misnested.toList.splitOn '\n')[1]? = some text ∧
        "send \"a$(pick('b$(pick(1 2))'))\"" =
          String.ofList (text.rdropWhile (· == '\r')) := by
  have reported : (match parse 1 misnested with
      | .ok _ => none
      | .error error => some error) =
      some ⟨2, "send \"a$(pick('b$(pick(1 2))'))\"",
        "Unexpected '2' in call to 'pick', expected ',' or ')'"⟩ := by
    decide +kernel
  cases failed : parse 1 misnested with
  | ok program => simp [failed] at reported
  | error error =>
      rw [failed] at reported
      cases reported
      exact ⟨rfl, (parse_error_line failed).2⟩

end Program

end ChatScript
