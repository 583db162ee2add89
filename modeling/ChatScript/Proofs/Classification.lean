import ChatScript.Proofs.Orderly
import ChatScript.Proofs.Registration
import ChatScript.Proofs.RoundTrip

/-! # Telling scripts from templates

The body of a command counts as a script if one of its lines, without the blanks around it, starts
with `set`, `send` or `when` and a space, or is `end`. The parser looks at tokens and not at lines.
The two meet in what the tokens of an accepted script are like, line by line: none is unknown, and
no line ends with a keyword that starts a statement (`Orderly`).

So a script is registered as the parser reads it exactly if one of its lines shows a statement
(`ShowsStatement`), and it does if every keyword that leads a line is followed by a space
(`Registry.add_of_parse`). A script without such a line is registered as a template.
-/

namespace ChatScript

/-! ## Trimmed lines -/

namespace Text

variable {drop : Char → Bool} {front back : List Char}

/-- Nothing in front of what is kept is dropped at the end. -/
theorem dropAtEnd_append_of_exists (some : ∃ c ∈ back, drop c = false) :
    dropAtEnd drop (front ++ back) = front ++ dropAtEnd drop back := by
  have stays : (back.reverse.dropWhile drop).isEmpty = false := by
    rw [List.isEmpty_eq_false_iff, Ne, List.dropWhile_eq_nil_iff]
    simpa using some
  rw [dropAtEnd, List.reverse_append, List.dropWhile_append, stays, if_neg (by simp),
    List.reverse_append, List.reverse_reverse, dropAtEnd]

/-- A text that does not start with a blank is only trimmed at its end, up to what is not blank. -/
theorem trim_append_of_exists (starts : ∀ c ∈ (front ++ back).head?, isBlank c = false)
    (some : ∃ c ∈ back, isBlank c = false) :
    trim (front ++ back) = front ++ dropAtEnd isBlank back := by
  rw [trim, dropWhile_of_head starts, dropAtEnd_append_of_exists some]

/-- A text is what is left of it by trimming, with blanks around it. -/
theorem exists_eq_trim (cs : List Char) :
    ∃ indent trail, cs = indent ++ (trim cs ++ trail) ∧ (∀ c ∈ indent, isBlank c) ∧
      ∀ c ∈ trail, isBlank c := by
  have front := List.takeWhile_append_dropWhile (p := isBlank) (l := cs)
  have back := List.takeWhile_append_dropWhile (p := isBlank)
    (l := (cs.dropWhile isBlank).reverse)
  refine ⟨cs.takeWhile isBlank, ((cs.dropWhile isBlank).reverse.takeWhile isBlank).reverse,
    ?_, ?_, ?_⟩
  · rw [trim, dropAtEnd, ← List.reverse_append, back, List.reverse_reverse, front]
  · exact fun c member => List.mem_takeWhile_imp member
  · exact fun c member => List.mem_takeWhile_imp (List.mem_reverse.mp member)

end Text

/-! ## Lines that a keyword leads -/

namespace Lexed

/-- A token that is no word stands in an expression or is unknown. -/
def NoWord (lexed : Lexed) : Prop :=
  lexed.kind.isInner ∨ lexed.kind = .unknown

theorem noWord_withEquals {alone extended : TokenKind} (first : alone.isInner ∨ alone = .unknown)
    (second : extended.isInner) (cs : List Char) : (withEquals alone extended cs).NoWord := by
  unfold withEquals
  split
  · exact .inl second
  · exact first

theorem noWord_quoted (quote : Char) (cs : List Char) : (quoted quote cs).NoWord := by
  unfold quoted
  split
  · exact .inl rfl
  · exact .inr rfl

theorem noWord_digits (c : Char) (cs : List Char) : (run digitsKind Char.isDigit c cs).NoWord := by
  unfold NoWord run digitsKind
  split
  · exact .inl rfl
  · exact .inr rfl

/-- A token is a word, unless it stands in an expression or is unknown. -/
theorem noWord_or_read_eq (c : Char) (cs : List Char) :
    (read c cs).NoWord ∨
      read c cs = run (fun word => wordKind (String.ofList word)) isWordChar c cs := by
  fun_cases read c cs with
  | case7 | case9 | case10 => exact .inl (noWord_withEquals (.inl rfl) rfl cs)
  | case8 => exact .inl (noWord_withEquals (.inr rfl) rfl cs)
  | case11 => exact .inl (noWord_quoted c cs)
  | case12 => exact .inl (noWord_digits c cs)
  | case13 => exact .inr rfl
  | case14 => exact .inl (.inr rfl)
  | _ => exact .inl (.inl rfl)

variable {c : Char} {cs : List Char}

/-- A keyword is read as far as its word goes. -/
theorem read_keyword {word : Keyword} (isKeyword : (read c cs).kind = .keyword word) :
    c :: (read c cs).tail = word.spelling.toList ∧ EndsWord (read c cs).rest := by
  rcases noWord_or_read_eq c cs with noWord | isWord
  · rw [NoWord, isKeyword] at noWord
    simp [TokenKind.isInner] at noWord
  · rw [isWord] at isKeyword ⊢
    have spelled := wordKind_eq_keyword isKeyword
    refine ⟨by rw [← spelled]; simp [run], ?_⟩
    intro d first
    have stops := List.head?_dropWhile_not isWordChar cs
    rw [run] at first
    simp_all

/-- No token but the newline itself is one. -/
theorem read_kind_ne_newline : (read c cs).kind ≠ .newline := by
  rcases noWord_or_read_eq c cs with noWord | isWord
  · intro isNewline
    rw [NoWord, isNewline] at noWord
    simp [TokenKind.isInner] at noWord
  · rw [isWord]
    exact wordKind_ne_newline _

end Lexed

/-- A line consists of blanks, a keyword and the rest. -/
def Leads (line : List Char) (word : Keyword) (rest : List Char) : Prop :=
  ∃ indent, indent.all isGap ∧ line = indent ++ (word.spelling.toList ++ rest)

/-- The first token of a line is the keyword that leads it. -/
theorem Leads.kindsOf_eq {line rest : List Char} {word : Keyword} (leads : Leads line word rest)
    (ends : EndsWord rest) : kindsOf line = .keyword word :: kindsOf rest := by
  obtain ⟨indent, blank, rfl⟩ := leads
  rw [kindsOf_gaps blank, kindsOf_keyword word ends]

/-- What the first token of a line is, and where it stands. -/
theorem first_token {line : List Char} (oneLine : '\n' ∉ line) {kind : TokenKind}
    {kinds : List TokenKind} (starts : kindsOf line = kind :: kinds) :
    ∃ indent c cs, indent.all isGap ∧ line = indent ++ c :: cs ∧ (Lexed.read c cs).kind = kind := by
  induction line with
  | nil =>
      rw [kindsOf_nil] at starts
      cases starts
  | cons c cs ih =>
      rw [List.mem_cons, not_or] at oneLine
      by_cases gap : isGap c
      · rw [kindsOf_gap gap] at starts
        obtain ⟨indent, d, ds, blank, rfl, read⟩ := ih oneLine.2 starts
        exact ⟨c :: indent, d, ds, by simp [gap, blank], rfl, read⟩
      · by_cases comment : c = '#'
        · rw [comment, kindsOf_comment, dropWhile_newline oneLine.2, kindsOf_nil] at starts
          cases starts
        · have noBlank := not_mem_blankChars_iff.mpr ⟨comment, gap, Ne.symm oneLine.1⟩
          rw [kindsOf_token noBlank, List.cons.injEq] at starts
          exact ⟨[], c, cs, rfl, rfl, starts.1⟩

/-- A line whose first token is a keyword is led by it. -/
theorem exists_leads {line : List Char} (oneLine : '\n' ∉ line) {word : Keyword}
    {kinds : List TokenKind} (starts : kindsOf line = .keyword word :: kinds) :
    ∃ rest, EndsWord rest ∧ Leads line word rest := by
  obtain ⟨indent, c, cs, blank, rfl, isKeyword⟩ := first_token oneLine starts
  obtain ⟨spelled, ends⟩ := Lexed.read_keyword isKeyword
  refine ⟨(Lexed.read c cs).rest, ends, indent, blank, ?_⟩
  rw [← spelled, List.cons_append, Lexed.tail_append_rest]

theorem kindsOf_head_ne_newline {line : List Char} (oneLine : '\n' ∉ line) :
    (kindsOf line).head? ≠ some .newline := by
  intro first
  obtain ⟨kinds, starts⟩ := List.head?_eq_some_iff.mp first
  obtain ⟨indent, c, cs, -, -, isNewline⟩ := first_token oneLine starts
  exact Lexed.read_kind_ne_newline isNewline

/-- A line with tokens that starts with a statement is led by its keyword. -/
theorem StartsStatement.leads {line : List Char} (oneLine : '\n' ∉ line) (some : kindsOf line ≠ [])
    {others : List TokenKind} (starts : StartsStatement (kindsOf line ++ others)) :
    ∃ word rest, word.opens ∧ EndsWord rest ∧ Leads line word rest := by
  obtain ⟨first, kinds, whole⟩ := List.exists_cons_of_ne_nil some
  have noNewline := kindsOf_head_ne_newline oneLine
  rw [whole] at starts noNewline
  cases starts with
  | here opens =>
      obtain ⟨rest, ends, leads⟩ := exists_leads oneLine whole
      exact ⟨_, rest, opens, ends, leads⟩
  | newline => exact absurd rfl noNewline

/-- A text that starts with a statement has a line that is led by a keyword opening a statement. -/
theorem StartsStatement.exists_line {cs : List Char} (starts : StartsStatement (kindsOf cs)) :
    ∃ line ∈ linesOf cs, ∃ word rest, word.opens ∧ EndsWord rest ∧ Leads line word rest := by
  induction cs using line_induction with
  | last line oneLine =>
      have some : kindsOf line ≠ [] := by
        intro empty
        rw [empty] at starts
        cases starts
      rw [← List.append_nil (kindsOf line)] at starts
      rw [linesOf_eq_singleton oneLine]
      exact ⟨line, List.mem_singleton_self line, starts.leads oneLine some⟩
  | next line rest oneLine ih =>
      rw [kindsOf_append_newline] at starts
      rw [linesOf_append_newline oneLine]
      by_cases empty : kindsOf line = []
      · -- The statement starts behind the newline.
        rw [empty, List.nil_append] at starts
        cases starts with
        | newline starts =>
            obtain ⟨later, member, leads⟩ := ih starts
            exact ⟨later, List.mem_cons_of_mem _ member, leads⟩
      · exact ⟨line, List.mem_cons_self .., starts.leads oneLine empty⟩

/-! ## Blanks that are no gaps -/

theorem isBlank_of_all_isGap {gap : List Char} (gaps : gap.all isGap) :
    ∀ c ∈ gap, Text.isBlank c := by
  intro c member
  have isGap := List.all_eq_true.mp gaps c member
  simp only [ChatScript.isGap, Bool.or_eq_true, beq_iff_eq] at isGap
  rcases isGap with (rfl | rfl) | rfl <;> decide

/-- No token starts with a blank. -/
theorem Lexed.read_blank {c : Char} (blank : Text.isBlank c) (cs : List Char) :
    (read c cs).kind = .unknown := by
  have noMark : c ∉ markChars := by
    intro isMark
    have apart : markChars.all (!Text.isBlank ·) = true := by decide
    have outside := List.all_eq_true.mp apart c isMark
    rw [blank] at outside
    exact Bool.false_ne_true outside
  have noWord := not_isWordChar_of_isBlank blank
  have noDigit : ¬c.isDigit := by
    intro digit
    simp [isWordChar_of_isDigit digit] at noWord
  have noStart : ¬isWordStart c := by
    intro starts
    simp [isWordChar_of_isWordStart starts] at noWord
  simp only [markChars, List.mem_cons, List.not_mem_nil, or_false, not_or] at noMark
  simp only [read, noMark, noDigit, noStart, ↓reduceIte, or_self, Bool.false_eq_true]

/-- A word ends where blanks begin. -/
theorem endsWord_blank {blanks : List Char} (blank : ∀ c ∈ blanks, Text.isBlank c) :
    EndsWord blanks := by
  intro c first
  exact not_isWordChar_of_isBlank (blank c (List.mem_of_mem_head? first))

/-- Where nothing is unknown, the blanks of a line are gaps. -/
theorem all_isGap_of_blank {blanks cs : List Char} (blank : ∀ c ∈ blanks, Text.isBlank c)
    (oneLine : '\n' ∉ blanks) (known : .unknown ∉ kindsOf (blanks ++ cs)) : blanks.all isGap := by
  induction blanks with
  | nil => rfl
  | cons c blanks ih =>
      rw [List.forall_mem_cons] at blank
      rw [List.mem_cons, not_or] at oneLine
      by_cases gap : isGap c
      · rw [List.cons_append, kindsOf_gap gap] at known
        rw [List.all_cons, gap, ih blank.2 oneLine.2 known]
        rfl
      · have noComment : c ≠ '#' := by
          rintro rfl
          exact absurd blank.1 (by decide)
        have noBlank := not_mem_blankChars_iff.mpr ⟨noComment, gap, Ne.symm oneLine.1⟩
        have unknown := Lexed.read_blank blank.1 (blanks ++ cs)
        rw [List.cons_append, kindsOf_token noBlank, unknown] at known
        exact absurd (List.mem_cons_self ..) known

/-! ## The judgement -/

/-- A line looks like a script if it is `end` or a keyword that opens a statement, with a space
behind it. -/
theorem isScriptLine_iff {line : List Char} : isScriptLine line ↔
    line = "end".toList ∨
      ∃ (word : Keyword) (rest : List Char), word.opens ∧
        line = word.spelling.toList ++ ' ' :: rest := by
  have started (start : String) : (Text.after? start.toList line).isSome ↔
      ∃ rest, line = start.toList ++ rest := by
    simp only [Option.isSome_iff_exists, Text.after?_eq_some_iff]
  simp only [isScriptLine, Bool.or_eq_true, beq_iff_eq, List.any_cons, List.any_nil, Bool.or_false,
    started]
  apply or_congr Iff.rfl
  constructor
  · rintro (⟨rest, rfl⟩ | ⟨rest, rfl⟩ | ⟨rest, rfl⟩)
    · exact ⟨.set, rest, rfl, rfl⟩
    · exact ⟨.send, rest, rfl, rfl⟩
    · exact ⟨.when, rest, rfl, rfl⟩
  · rintro ⟨word, rest, opens, rfl⟩
    cases word with
    | set => exact .inl ⟨rest, rfl⟩
    | send => exact .inr (.inl ⟨rest, rfl⟩)
    | when => exact .inr (.inr ⟨rest, rfl⟩)
    | _ => cases opens

/-- A body looks like a script if one of its trimmed lines does. -/
theorem looksLikeScript_iff {body : String} :
    looksLikeScript body ↔ ∃ line ∈ linesOf body.toList, isScriptLine (Text.trim line) := by
  -- A carriage return is trimmed with the blanks, and an empty line is no line of a script.
  have blind (line : List Char) :
      isScriptLine (Text.trim (line ++ ['\r'])) = isScriptLine (Text.trim line) :=
    congrArg isScriptLine (Text.trim_trail (List.forall_mem_singleton.mpr (by decide)) line)
  obtain ⟨rest, same, blank⟩ :=
    map_linesOf (fun line => isScriptLine (Text.trim line)) blind body.toList
  have absent : true ∉ rest := fun member => absurd (blank true member) (by decide)
  rw [looksLikeScript, List.any_eq_true, ← List.mem_map, ← List.mem_map, same, List.mem_append,
    or_iff_left absent]

/-- A line shows a statement: behind blanks, it goes on with a keyword that opens one and a space,
or it is `end` with blanks around it. -/
def ShowsStatement (line : List Char) : Prop :=
  (∃ word rest, word.opens ∧ Leads line word (' ' :: rest)) ∨
    ∃ trail, trail.all isGap ∧ Leads line .end trail

/-- A line that a keyword leads is trimmed up to that keyword. -/
theorem Leads.trim_eq {line rest : List Char} {word : Keyword} (leads : Leads line word rest) :
    Text.trim line = Text.trim (word.spelling.toList ++ rest) := by
  obtain ⟨indent, gaps, rfl⟩ := leads
  exact Text.trim_indent (isBlank_of_all_isGap gaps) _

section Judgement

variable {line : List Char} (orderly : Orderly (kindsOf line))

include orderly

/-- Behind a keyword that opens a statement there is more than blanks. -/
theorem exists_not_isBlank (oneLine : '\n' ∉ line) {word : Keyword} (opens : word.opens)
    {rest : List Char} (leads : Leads line word (' ' :: rest)) :
    ∃ c ∈ rest, Text.isBlank c = false := by
  by_contra none
  have blank : ∀ c ∈ rest, Text.isBlank c := by simpa using none
  have kinds := leads.kindsOf_eq (endsWord_cons ' ' (by decide) rest)
  rw [kindsOf_space] at kinds
  rw [kinds] at orderly
  have gaps : rest.all isGap := by
    apply all_isGap_of_blank blank
    · obtain ⟨indent, -, rfl⟩ := leads
      exact fun member => oneLine (by simp [member])
    · rw [List.append_nil]
      exact orderly.2.2.unknown_not_mem
  have nothing : kindsOf rest = [] := by
    rw [← List.append_nil rest, kindsOf_gaps gaps, kindsOf_nil]
  rw [nothing] at orderly
  obtain ⟨next, first, -⟩ := orderly.2.1 word rfl opens
  cases first

/-- What shows a statement is seen by the classifier. -/
theorem ShowsStatement.isScriptLine (oneLine : '\n' ∉ line) (shows : ShowsStatement line) :
    isScriptLine (Text.trim line) := by
  rw [isScriptLine_iff]
  rcases shows with ⟨word, rest, opens, leads⟩ | ⟨trail, gaps, leads⟩
  · -- The line goes on behind the keyword, so that trimming leaves the space.
    have goesOn := exists_not_isBlank orderly oneLine opens leads
    have starts : ∀ c ∈ (word.spelling.toList ++ [' '] ++ rest).head?, Text.isBlank c = false := by
      cases word <;>
        · intro c first
          cases first
          decide
    refine .inr ⟨word, Text.dropAtEnd Text.isBlank rest, opens, ?_⟩
    rw [leads.trim_eq, List.append_cons, Text.trim_append_of_exists starts goesOn,
      List.append_assoc, List.singleton_append]
  · refine .inl ?_
    rw [leads.trim_eq, Text.trim_trail (isBlank_of_all_isGap gaps)]
    rfl

/-- What the classifier goes by shows a statement. -/
theorem showsStatement_of_isScriptLine (oneLine : '\n' ∉ line)
    (judged : ChatScript.isScriptLine (Text.trim line)) : ShowsStatement line := by
  obtain ⟨indent, trail, whole, before, behind⟩ := Text.exists_eq_trim line
  have gaps : indent.all isGap := by
    apply all_isGap_of_blank before
    · rw [whole] at oneLine
      exact fun member => oneLine (List.mem_append_left _ member)
    · rw [← whole]
      exact orderly.unknown_not_mem
  rcases isScriptLine_iff.mp judged with isEnd | ⟨word, rest, opens, starts⟩
  · have leads : Leads line .end trail := ⟨indent, gaps, by rwa [isEnd] at whole⟩
    rw [leads.kindsOf_eq (endsWord_blank behind), ← List.append_nil trail] at orderly
    refine .inr ⟨trail, all_isGap_of_blank behind ?_ orderly.2.2.unknown_not_mem, leads⟩
    rw [whole] at oneLine
    exact fun member => oneLine (by simp [member])
  · refine .inl ⟨word, rest ++ trail, opens, indent, gaps, ?_⟩
    rwa [starts, List.append_assoc, List.cons_append] at whole

end Judgement

/-! ## Registered scripts -/

/-- One of the lines of a body shows a statement. -/
def ShowsScript (body : String) : Prop :=
  ∃ line ∈ linesOf body.toList, ShowsStatement line

/-- Every keyword that leads a line and opens a statement is followed by a space. -/
def SpacesKeywords (body : String) : Prop :=
  ∀ line ∈ linesOf body.toList, ∀ (word : Keyword) (rest : List Char), word.opens →
    EndsWord rest → Leads line word rest → rest.head? = some ' '

/-- The classifier takes an orderly body for a script if one of its lines shows a statement. -/
theorem looksLikeScript_iff_showsScript {body : String} (orderly : Orderly (kindsOf body.toList)) :
    looksLikeScript body ↔ ShowsScript body := by
  rw [looksLikeScript_iff]
  constructor
  · rintro ⟨line, member, judged⟩
    exact ⟨line, member, showsStatement_of_isScriptLine (orderly.line member)
      (newline_not_mem_of_mem_linesOf member) judged⟩
  · rintro ⟨line, member, shows⟩
    exact ⟨line, member, shows.isScriptLine (orderly.line member)
      (newline_not_mem_of_mem_linesOf member)⟩

section Accepted

variable {limit : Nat} {body : String} {program : Program}

/-- An accepted body has a line that a keyword leads, and a space behind the keyword shows it. -/
theorem SpacesKeywords.showsScript (spaced : SpacesKeywords body)
    (parsed : Program.parse limit body = .ok program) : ShowsScript body := by
  obtain ⟨some, forms⟩ := Program.parse_eq_ok_iff_forms.mp parsed
  have starts := startsStatement_of_forms forms (by simpa using some)
  rw [map_kind_tokenize] at starts
  obtain ⟨line, member, word, rest, opens, ends, leads⟩ := starts.exists_line
  have space := spaced line member word rest opens ends leads
  obtain ⟨others, rfl⟩ := List.head?_eq_some_iff.mp space
  exact ⟨line, member, .inl ⟨word, others, opens, leads⟩⟩

namespace Registry

/-- The registry with a command under the key of a name. -/
def withCommand (registry : Registry) (sigil name : String) (kind : CommandKind)
    (program : Program) : Registry :=
  registry.insert (commandKey sigil name) ⟨commandKey sigil name, kind, program⟩

/-- **Which scripts are registered as scripts.** A body that the parser accepts is registered as
the script it is exactly if one of its lines shows a statement, and so it is if every keyword that
leads a line is followed by a space. Otherwise it is registered as the template of its text. -/
theorem add_of_parse (parsed : Program.parse limit body = .ok program) (registry : Registry)
    (sigil name : String) :
    (registry.add sigil limit name body =
        .ok (.script, registry.withCommand sigil name .script program) ↔ ShowsScript body) ∧
      (SpacesKeywords body → registry.add sigil limit name body =
        .ok (.script, registry.withCommand sigil name .script program)) ∧
      (¬ShowsScript body → registry.add sigil limit name body =
        .ok (.template, registry.withCommand sigil name .template (.ofTemplate body))) := by
  have judgement := looksLikeScript_iff_showsScript (orderly_of_parse parsed)
  have asScript (isScript : looksLikeScript body) : registry.add sigil limit name body =
      .ok (.script, registry.withCommand sigil name .script program) := by
    rw [add, compileBody, if_pos isScript, parsed]
    rfl
  have asTemplate (isTemplate : ¬looksLikeScript body) : registry.add sigil limit name body =
      .ok (.template, registry.withCommand sigil name .template (.ofTemplate body)) := by
    rw [add, compileBody, if_neg isTemplate]
    rfl
  refine ⟨⟨?_, ?_⟩, ?_, ?_⟩
  · intro added
    by_contra hidden
    rw [asTemplate (judgement.not.mpr hidden)] at added
    cases added
  · exact fun shows => asScript (judgement.mpr shows)
  · exact fun spaced => asScript (judgement.mpr (spaced.showsScript parsed))
  · exact fun hidden => asTemplate (judgement.not.mpr hidden)

/-- A script that shows itself behind a comment and a tab. -/
def tabbed : String :=
  "# counts\n\tset x 1\nsend\"$(x)\""

/-- A body with a tab in front of its keyword is a script. -/
theorem add_of_parse_tabbed :
    ∃ program, Program.parse 1 tabbed = .ok program ∧
      program.render = "set x 1\nsend $(x)\n" ∧
      (∅ : Registry).add "!" 1 "!Count" tabbed =
        .ok (.script, (∅ : Registry).withCommand "!" "!Count" .script program) := by
  have accepted : (Program.parse 1 tabbed).toOption.map Program.render =
      some "set x 1\nsend $(x)\n" := by
    decide +kernel
  obtain ⟨program, parsed, printed⟩ := Program.exists_parse_of_render accepted
  have shows : ShowsScript tabbed :=
    ⟨"\tset x 1".toList, by decide, .inl ⟨.set, "x 1".toList, rfl, ['\t'], rfl, rfl⟩⟩
  exact ⟨program, parsed, printed, (add_of_parse parsed ∅ "!" "!Count").1.mpr shows⟩

/-- A script without a space behind its keyword. -/
def unspaced : String :=
  "send\"hi\""

/-- The parser accepts it, and still it is registered as a template. -/
theorem add_unspaced :
    ∃ program, Program.parse 1 unspaced = .ok program ∧ program.render = "send \"hi\"\n" ∧
      (∅ : Registry).add "!" 1 "hi" unspaced =
        .ok (.template, (∅ : Registry).withCommand "!" "hi" .template (.ofTemplate unspaced)) ∧
      (∅ : Registry).add "!" 1 "hi" unspaced ≠
        .ok (.script, (∅ : Registry).withCommand "!" "hi" .script program) := by
  have accepted : (Program.parse 1 unspaced).toOption.map Program.render =
      some "send \"hi\"\n" := by
    decide +kernel
  obtain ⟨program, parsed, printed⟩ := Program.exists_parse_of_render accepted
  have isTemplate : looksLikeScript unspaced = false := by decide
  have added : (∅ : Registry).add "!" 1 "hi" unspaced =
      .ok (.template, (∅ : Registry).withCommand "!" "hi" .template (.ofTemplate unspaced)) := by
    rw [add, compileBody, isTemplate]
    rfl
  refine ⟨program, parsed, printed, added, ?_⟩
  rw [added]
  intro same
  cases same

end Registry

end Accepted

end ChatScript
