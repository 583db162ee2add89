import ChatScript.Proofs.Scanning

/-! # Where tokens stand in a text

No token reaches over the end of its line: a newline is read as a token of its own whatever stands
before it, and so the lines of a text are read independently of each other
(`tokensFrom_append_newline`).

The tokens of a text and the gaps around them make up the text (`Layout`). A gap holds only blanks
and at most one comment, which goes on to the end of its line (`Filler`), and the line of a token
counts the newlines in front of it (`tokenize_lossless`).
-/

namespace ChatScript

/-! ## Tokens stay on their line -/

/-- Pieces of quoted text have no newline in them. -/
theorem newline_not_mem_written {quote : Char} {cs rest : List Char} {pieces : List Piece}
    (read : readQuoted quote cs = some (pieces, rest)) : '\n' ∉ pieces.flatMap Piece.written := by
  fun_induction readQuoted quote cs generalizing pieces rest with
  | case1 | case2 | case3 | case5 | case7 => cases read
  | case4 c _ noNewline ih | case9 c _ _ _ _ noNewline _ ih =>
      obtain ⟨⟨inner, after⟩, inside, same⟩ := Option.map_eq_some_iff.mp read
      cases same
      simp [Piece.written, ih inside, Ne.symm noNewline]
  | case6 _ _ _ found ih =>
      obtain ⟨⟨inner, after⟩, inside, same⟩ := Option.map_eq_some_iff.mp read
      cases same
      simp [Piece.written, ih inside, newline_not_mem_body found]
  | case8 =>
      cases read
      simp

theorem newline_ne_quote {quote : Char} (isQuote : quote = '"' ∨ quote = '\'') : '\n' ≠ quote := by
  rcases isQuote with rfl | rfl <;> decide

/-- Reading quoted text does not look beyond a newline. -/
theorem readQuoted_newline {quote : Char} (isQuote : quote = '"' ∨ quote = '\'')
    (cs more : List Char) :
    readQuoted quote (cs ++ '\n' :: more) =
      (readQuoted quote cs).map fun read => (read.1, read.2 ++ '\n' :: more) := by
  cases short : readQuoted quote cs with
  | some read =>
      obtain ⟨pieces, rest⟩ := read
      rw [readQuoted_eq_some short, List.append_assoc, List.cons_append,
        readQuoted_local isQuote short]
      rfl
  | none =>
      rw [Option.map_none, Option.eq_none_iff_forall_ne_some]
      rintro ⟨pieces, rest⟩ long
      -- The quoted text is on one line, so it ends before the newline and is read without it.
      have oneLine : '\n' ∉ pieces.flatMap Piece.written ++ [quote] := by
        simp [newline_not_mem_written long, newline_ne_quote isQuote]
      have whole := readQuoted_eq_some long
      rw [List.append_cons (pieces.flatMap Piece.written)] at whole
      rcases List.append_eq_append_iff.mp whole with
        ⟨beyond, reaches, newline⟩ | ⟨left, enough, -⟩
      · cases beyond with
        | nil =>
            have read := readQuoted_local isQuote long []
            rw [reaches, List.append_nil, short] at read
            cases read
        | cons c beyond =>
            obtain ⟨rfl, -⟩ := List.cons.inj newline
            exact oneLine (by simp [reaches])
      · rw [enough, List.append_assoc, List.singleton_append, readQuoted_local isQuote long]
          at short
        cases short

namespace Lexed

/-- What is read when more text follows. -/
def followedBy (lexed : Lexed) (more : List Char) : Lexed :=
  { lexed with rest := lexed.rest ++ more }

theorem followedBy_ite {condition : Prop} [Decidable condition] {long long' short short' : Lexed}
    {more : List Char} (yes : condition → long = short.followedBy more)
    (no : ¬condition → long' = short'.followedBy more) :
    (if condition then long else long') =
      (if condition then short else short').followedBy more := by
  by_cases holds : condition
  · rw [if_pos holds, if_pos holds, yes holds]
  · rw [if_neg holds, if_neg holds, no holds]

/-- A run ends in front of a character that does not belong to it. -/
theorem run_stop {belongs : Char → Bool} {stop : Char} (outside : belongs stop = false)
    (kind : List Char → TokenKind) (c : Char) (cs more : List Char) :
    run kind belongs c (cs ++ stop :: more) =
      (run kind belongs c cs).followedBy (stop :: more) := by
  have stops : (cs ++ stop :: more).takeWhile belongs = cs.takeWhile belongs ∧
      (cs ++ stop :: more).dropWhile belongs = cs.dropWhile belongs ++ stop :: more := by
    induction cs with
    | nil => simp [outside]
    | cons d cs ih => cases inside : belongs d <;> simp [inside, ih]
  rw [run, stops.1, stops.2]
  rfl

/-- A mark does not grow by anything but an equals sign. -/
theorem withEquals_stop {stop : Char} (noEquals : stop ≠ '=') (alone extended : TokenKind)
    (cs more : List Char) :
    withEquals alone extended (cs ++ stop :: more) =
      (withEquals alone extended cs).followedBy (stop :: more) := by
  cases cs with
  | nil => simp [withEquals, noEquals, followedBy]
  | cons d cs =>
      by_cases equals : d = '='
      · subst equals
        rfl
      · simp [withEquals, equals, followedBy]

/-- Quoted text ends on its line or is not closed on it, so a newline behind it changes nothing. -/
theorem quoted_newline {quote : Char} (isQuote : quote = '"' ∨ quote = '\'')
    (cs more : List Char) :
    quoted quote (cs ++ '\n' :: more) = (quoted quote cs).followedBy ('\n' :: more) := by
  rw [quoted, quoted, readQuoted_newline isQuote]
  cases readQuoted quote cs with
  | none => exact run_stop rfl _ _ _ _
  | some read => rfl

/-- Reading a token does not look beyond a newline. -/
theorem read_newline (c : Char) (cs more : List Char) :
    read c (cs ++ '\n' :: more) = (read c cs).followedBy ('\n' :: more) := by
  unfold read
  iterate 6 refine followedBy_ite (fun _ => rfl) fun _ => ?_
  iterate 4 refine followedBy_ite (fun _ => withEquals_stop (by decide) _ _ cs more) fun _ => ?_
  refine followedBy_ite (fun isQuote => quoted_newline isQuote cs more) fun _ => ?_
  iterate 2 refine followedBy_ite (fun _ => run_stop rfl _ c cs more) fun _ => ?_
  rfl

/-- A token has no newline behind its first character. -/
theorem newline_not_mem_tail (c : Char) (cs : List Char) : '\n' ∉ (read c cs).tail := by
  by_cases oneLine : '\n' ∈ cs
  · obtain ⟨front, back, rfl, absent⟩ := List.eq_append_cons_of_mem oneLine
    rw [read_newline]
    intro member
    apply absent
    rw [← tail_append_rest c front]
    exact List.mem_append_left _ member
  · intro member
    apply oneLine
    rw [← tail_append_rest c cs]
    exact List.mem_append_left _ member

/-- A token leaves the newlines behind it to the rest. -/
theorem count_rest (c : Char) (cs : List Char) : (read c cs).rest.count '\n' = cs.count '\n' := by
  conv => rhs; rw [← tail_append_rest c cs]
  rw [List.count_append, List.count_eq_zero.mpr (newline_not_mem_tail c cs), Nat.zero_add]

end Lexed

/-! ## Lines are read on their own -/

/-- Skipping the rest of a line. -/
theorem dropWhile_append_newline (front back : List Char) :
    (front ++ '\n' :: back).dropWhile (· != '\n') =
      front.dropWhile (· != '\n') ++ '\n' :: back := by
  induction front with
  | nil => rfl
  | cons c front ih =>
      by_cases newline : c = '\n'
      · simp [newline]
      · simp [newline, ih]

/-- A comment leaves all newlines behind it. -/
theorem count_dropWhile_newline (cs : List Char) :
    (cs.dropWhile (· != '\n')).count '\n' = cs.count '\n' := by
  induction cs with
  | nil => rfl
  | cons c cs ih =>
      by_cases newline : c = '\n'
      · simp [newline]
      · simp [newline, ih]

/-- A newline ends a token, and what follows is read on its own. -/
theorem tokensFrom_append_newline (line : Nat) (front back : List Char) :
    tokensFrom line (front ++ '\n' :: back) =
      tokensFrom line front ++ ⟨.newline, "\n", line + front.count '\n'⟩ ::
        tokensFrom (line + front.count '\n' + 1) back := by
  fun_induction tokensFrom line front with
  | case1 line => exact tokensFrom_newline line back
  | case2 line rest ih =>
      rw [count_dropWhile_newline] at ih
      rw [List.cons_append, tokensFrom, if_pos rfl, dropWhile_append_newline, ih,
        List.count_cons_of_ne (by decide)]
  | case3 line c rest noComment gap ih =>
      have noNewline : c ≠ '\n' := by
        rintro rfl
        cases gap
      rw [List.cons_append, tokensFrom, if_neg noComment, if_pos gap, ih,
        List.count_cons_of_ne noNewline]
  | case4 line rest noComment noGap ih =>
      rw [List.cons_append, tokensFrom_newline, ih, List.count_cons_self, List.cons_append,
        Nat.add_right_comm, Nat.add_assoc]
  | case5 line c rest noComment noGap noNewline token ih =>
      rw [Lexed.count_rest] at ih
      rw [List.cons_append, tokensFrom, if_neg noComment, if_neg noGap, if_neg noNewline,
        Lexed.read_newline, List.count_cons_of_ne noNewline, List.cons_append]
      exact congrArg _ ih

/-- The tokens of two texts with a newline between them are those of each, with the newline. -/
theorem kindsOf_append_newline (front back : List Char) :
    kindsOf (front ++ '\n' :: back) = kindsOf front ++ .newline :: kindsOf back := by
  rw [kindsOf, tokensFrom_append_newline, List.map_append, List.map_cons,
    map_kind_tokensFrom _ 1 back, kindsOf, kindsOf]

/-- The lines of a text, from newline to newline. -/
def linesOf (cs : List Char) : List (List Char) :=
  Text.stretches (· == '\n') cs

theorem linesOf_eq_singleton {line : List Char} (oneLine : '\n' ∉ line) : linesOf line = [line] :=
  Text.stretches_of_no_break (Text.beq_eq_false_of_not_mem oneLine)

theorem linesOf_append_newline {line : List Char} (oneLine : '\n' ∉ line) (rest : List Char) :
    linesOf (line ++ '\n' :: rest) = line :: linesOf rest :=
  Text.stretches_append_break (Text.beq_eq_false_of_not_mem oneLine) rfl rest

/-- A text is its last line, or a line, a newline and a text. -/
theorem line_induction {motive : List Char → Prop} (last : ∀ line, '\n' ∉ line → motive line)
    (next : ∀ line rest, '\n' ∉ line → motive rest → motive (line ++ '\n' :: rest))
    (cs : List Char) : motive cs := by
  induction length : cs.length using Nat.strong_induction_on generalizing cs with
  | _ n ih =>
      by_cases oneLine : '\n' ∈ cs
      · obtain ⟨line, rest, rfl, absent⟩ := List.eq_append_cons_of_mem oneLine
        refine next line rest absent (ih rest.length ?_ rest rfl)
        rw [← length, List.length_append, List.length_cons]
        omega
      · exact last cs oneLine

theorem newline_not_mem_of_mem_linesOf {line cs : List Char} (member : line ∈ linesOf cs) :
    '\n' ∉ line := by
  induction cs using line_induction with
  | last front oneLine =>
      rw [linesOf_eq_singleton oneLine, List.mem_singleton] at member
      rwa [member]
  | next front rest oneLine ih =>
      rw [linesOf_append_newline oneLine, List.mem_cons] at member
      rcases member with rfl | later
      · exact oneLine
      · exact ih later

/-- What does not see a carriage return at the end of a line finds the same in the lines of a text
and in what stands between its newlines, where an empty one may come last in addition. -/
theorem map_linesOf {β : Type} (view : List Char → β)
    (blind : ∀ line, view (line ++ ['\r']) = view line) (cs : List Char) :
    ∃ rest, (linesOf cs).map view = (Text.lines cs).map view ++ rest ∧
      ∀ last ∈ rest, last = view [] := by
  have dropped (line : List Char) : view (Text.dropReturn line) = view line := by
    unfold Text.dropReturn
    split
    · rename_i ends
      obtain ⟨front, rfl⟩ := List.getLast?_eq_some_iff.mp ends
      rw [List.dropLast_concat, blind]
    · rfl
  unfold linesOf Text.lines
  generalize Text.stretches (· == '\n') cs = parts
  fun_induction Text.linesOfStretches parts with
  | case1 => exact ⟨[], rfl, List.forall_mem_nil _⟩
  | case2 last isEmpty =>
      rw [List.isEmpty_iff] at isEmpty
      subst isEmpty
      exact ⟨[view []], rfl, List.forall_mem_singleton.mpr rfl⟩
  | case3 => exact ⟨[], rfl, List.forall_mem_nil _⟩
  | case4 line others _ ih =>
      obtain ⟨rest, same, blank⟩ := ih
      refine ⟨rest, ?_, blank⟩
      rw [List.map_cons, List.map_cons, List.cons_append, dropped, same]

/-! ## Gaps -/

/-- What may stand in front of a text between two tokens: blanks, and a comment if the text goes
on with the next line or not at all. -/
inductive Filler : List Char → List Char → Prop
  | blanks {blanks following} : blanks.all isGap → Filler blanks following
  | comment {blanks content following} : blanks.all isGap → '\n' ∉ content →
      (∀ c ∈ following.head?, c = '\n') → Filler (blanks ++ '#' :: content) following

namespace Filler

variable {gap following : List Char}

theorem nil : Filler [] following := .blanks rfl

theorem cons {c : Char} (isGap : isGap c) (filler : Filler gap following) :
    Filler (c :: gap) following := by
  cases filler with
  | blanks blank => exact .blanks (by simp [isGap, blank])
  | comment blank oneLine ends =>
      rw [← List.cons_append]
      exact .comment (by simp [isGap, blank]) oneLine ends

theorem newline_not_mem (filler : Filler gap following) : '\n' ∉ gap := by
  have apart {blanks : List Char} (blank : blanks.all isGap) : '\n' ∉ blanks := fun member =>
    absurd (List.all_eq_true.mp blank _ member) (by decide)
  cases filler with
  | blanks blank => exact apart blank
  | comment blank oneLine =>
      intro member
      rcases List.mem_append.mp member with inBlanks | inComment
      · exact apart blank inBlanks
      · exact oneLine (List.mem_of_ne_of_mem (by decide) inComment)

/-- There is no gap in front of a newline, nor where the text ends. -/
theorem eq_nil (filler : Filler gap following) (ends : ∀ c ∈ (gap ++ following).head?, c = '\n') :
    gap = [] := by
  cases gap with
  | nil => rfl
  | cons c gap =>
      obtain rfl := ends c rfl
      exact absurd (List.mem_cons_self ..) filler.newline_not_mem

end Filler

/-- What a token is like that stands on a line: it is not empty, it keeps to its line unless it is
the newline, and it knows the line. -/
structure Token.StandsOn (line : Nat) (token : Token) : Prop where
  nonempty : token.lexeme ≠ ""
  oneLine : '\n' ∈ token.lexeme.toList → token.kind = .newline
  line_eq : token.line = line

/-- A text that starts on a line is made up of tokens, with gaps around them. -/
inductive Layout : Nat → List Char → List Token → Prop
  | last {line gap} : Filler gap [] → Layout line gap []
  | token {line gap token rest tokens} : Filler gap (token.lexeme.toList ++ rest) →
      token.StandsOn line → Layout (line + token.lexeme.toList.count '\n') rest tokens →
      Layout line (gap ++ (token.lexeme.toList ++ rest)) (token :: tokens)

namespace Layout

variable {line : Nat} {cs : List Char} {tokens : List Token}

theorem gap {c : Char} (isGap : isGap c) (layout : Layout line cs tokens) :
    Layout line (c :: cs) tokens := by
  cases layout with
  | last filler => exact .last (filler.cons isGap)
  | token filler stands rest =>
      rw [← List.cons_append]
      exact .token (filler.cons isGap) stands rest

/-- A comment may stand where the line or the text ends. -/
theorem comment {content : List Char} (oneLine : '\n' ∉ content)
    (ends : ∀ c ∈ cs.head?, c = '\n') (layout : Layout line cs tokens) :
    Layout line ('#' :: (content ++ cs)) tokens := by
  have filler {following : List Char} (ends : ∀ c ∈ following.head?, c = '\n') :
      Filler ([] ++ '#' :: content) following :=
    .comment rfl oneLine ends
  cases layout with
  | last blank =>
      obtain rfl := blank.eq_nil (by simpa using ends)
      rw [List.append_nil]
      exact .last (filler ends)
  | token blank stands rest =>
      obtain rfl := blank.eq_nil ends
      exact .token (filler ends) stands rest

/-- A token that was read from the front of a text. -/
theorem cons (kind : TokenKind) {lexeme rest : List Char} (nonempty : lexeme ≠ [])
    (oneLine : '\n' ∈ lexeme → kind = .newline)
    (layout : Layout (line + lexeme.count '\n') rest tokens) :
    Layout line (lexeme ++ rest) (⟨kind, String.ofList lexeme, line⟩ :: tokens) := by
  have written : (String.ofList lexeme).toList = lexeme := String.toList_ofList
  have stands : Token.StandsOn line ⟨kind, String.ofList lexeme, line⟩ :=
    ⟨by simpa using nonempty, by rwa [written], rfl⟩
  rw [← written] at layout
  simpa only [written, List.nil_append] using Layout.token .nil stands layout

end Layout

/-- Reading a text finds out how it is made up. -/
theorem layout_tokensFrom (line : Nat) (cs : List Char) : Layout line cs (tokensFrom line cs) := by
  fun_induction tokensFrom line cs with
  | case1 line => exact .last .nil
  | case2 line rest ih =>
      have whole := List.takeWhile_append_dropWhile (p := (· != '\n')) (l := rest)
      have oneLine : '\n' ∉ rest.takeWhile (· != '\n') := by
        intro member
        simpa using List.mem_takeWhile_imp member
      have ends : ∀ c ∈ (rest.dropWhile (· != '\n')).head?, c = '\n' := by
        intro c first
        have stops := List.head?_dropWhile_not (· != '\n') rest
        simp_all
      conv in '#' :: rest => rw [← whole]
      exact ih.comment oneLine ends
  | case3 line c rest noComment gap ih => exact ih.gap gap
  | case4 line rest noComment noGap ih =>
      exact .cons .newline (List.cons_ne_nil '\n' []) (fun _ => rfl) ih
  | case5 line c rest noComment noGap noNewline token ih =>
      have oneLine : '\n' ∉ c :: token.tail := by
        rw [List.mem_cons, not_or]
        exact ⟨Ne.symm noNewline, Lexed.newline_not_mem_tail c rest⟩
      have layout : Layout (line + (c :: token.tail).count '\n') token.rest
          (tokensFrom line token.rest) := by
        rwa [List.count_eq_zero.mpr oneLine]
      have whole := Layout.cons token.kind (List.cons_ne_nil c token.tail)
        (fun member => absurd member oneLine) layout
      rwa [List.cons_append, Lexed.tail_append_rest] at whole

/-! ## Nothing is lost -/

/-- A token with the gap in front of it. -/
structure Placed where
  gap : List Char
  token : Token

namespace Placed

/-- The characters of a gap and of the token behind it. -/
def written (placed : Placed) : List Char :=
  placed.gap ++ placed.token.lexeme.toList

/-- The characters of several tokens and their gaps. -/
def text (placed : List Placed) : List Char :=
  placed.flatMap written

@[simp] theorem text_nil : text [] = [] := rfl

@[simp] theorem text_cons (first : Placed) (others : List Placed) :
    text (first :: others) = first.written ++ text others := by
  rw [text, List.flatMap_cons, text]

end Placed

/-- The tokens of a layout with their gaps: the first one stands where the text begins, and each
line counts from there. -/
theorem Layout.exists_placed {line : Nat} {cs : List Char} {tokens : List Token}
    (layout : Layout line cs tokens) :
    ∃ placed last, placed.map Placed.token = tokens ∧ cs = Placed.text placed ++ last ∧
      Filler last [] ∧ ∀ before here after, placed = before ++ here :: after →
        Filler here.gap (here.token.lexeme.toList ++ (Placed.text after ++ last)) ∧
          here.token.StandsOn (line + (Placed.text before ++ here.gap).count '\n') := by
  induction layout with
  | @last line gap filler => exact ⟨[], gap, rfl, rfl, filler, by simp⟩
  | @token line gap token rest tokens filler stands _ ih =>
      obtain ⟨placed, last, rfl, rfl, closing, each⟩ := ih
      have noNewline : gap.count '\n' = 0 := List.count_eq_zero.mpr filler.newline_not_mem
      refine ⟨⟨gap, token⟩ :: placed, last, rfl, by simp [Placed.written], closing, ?_⟩
      intro before here after split
      cases before with
      | nil =>
          obtain ⟨rfl, rfl⟩ := List.cons.inj split
          exact ⟨filler, by simpa [noNewline] using stands⟩
      | cons first before =>
          obtain ⟨rfl, rfl⟩ := List.cons.inj split
          obtain ⟨behind, later⟩ := each before here after rfl
          refine ⟨behind, ?_⟩
          simpa [Placed.written, noNewline, Nat.add_assoc] using later

/-- A text is the concatenation of its tokens and of the gaps around them. Gaps hold blanks and
comments only, no token is empty, only newline tokens have a newline in them, and the line of a
token counts the newlines in front of it. -/
theorem tokenize_lossless (source : String) :
    ∃ placed last, placed.map Placed.token = tokenize source ∧
      source.toList = Placed.text placed ++ last ∧ Filler last [] ∧
      ∀ before here after, placed = before ++ here :: after →
        Filler here.gap (here.token.lexeme.toList ++ (Placed.text after ++ last)) ∧
          here.token.StandsOn (1 + (Placed.text before ++ here.gap).count '\n') :=
  (layout_tokensFrom 1 source.toList).exists_placed

end ChatScript
