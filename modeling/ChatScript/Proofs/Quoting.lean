import ChatScript.Program.Printer
import ChatScript.Proofs.Scanning

/-! # Quoting fragments and reading them again

The printer writes a string literal as its fragments, one behind the other (`Fragment.written`).
Text can always be read again, both by the lexer and by the reader that looks for the end of the
reference that the literal may stand in (`escape_inverted`). A reference can be read again if the
reader of its body finds the parenthesis that was written for it (`Fragment.Closed`); the first
reference for which it does not is still found where it stands, only with another body
(`kind_quoted_reference`).
-/

namespace ChatScript

/-- The piece that a character of text is printed as. -/
def escapePiece (c : Char) : Piece :=
  if c = '"' ∨ c = '\\' ∨ c = '$' then .escape c
  else if c = '\n' then .escape 'n'
  else if c = '\t' then .escape 't'
  else .plain c

theorem written_escapePiece (c : Char) : (escapePiece c).written = escapeChar c := by
  unfold escapePiece escapeChar
  grind [Piece.written]

namespace Fragment

/-- The text between double quotes that a fragment is printed as. -/
def written : Fragment → List Char
  | .text content => content.toList.flatMap escapeChar
  | .reference body => '$' :: '(' :: body.toList ++ [')']

/-- The pieces that a fragment is read as. -/
def pieces : Fragment → List Piece
  | .text content => content.toList.map escapePiece
  | .reference body => [.reference body.toList]

/-- Reading the body of a reference stops at the parenthesis that was written behind it. -/
def Closed : Fragment → Prop
  | .text _ => True
  | .reference body =>
      readBody 0 none (body.toList ++ [')']) = some (body.toList, [])

end Fragment

/-- An escaped character is read as its piece, whatever follows. -/
theorem readQuoted_escapePiece (c : Char) (cs : List Char) :
    readQuoted '"' (escapeChar c ++ cs) =
      (readQuoted '"' cs).map fun read => (escapePiece c :: read.1, read.2) := by
  rw [← written_escapePiece]
  unfold escapePiece
  split
  · rename_i special
    apply readQuoted_escape
    rcases special with rfl | rfl | rfl <;> decide
  · rename_i ordinary
    simp only [not_or] at ordinary
    split
    · exact readQuoted_escape (by decide)
    · rename_i noNewline
      split
      · exact readQuoted_escape (by decide)
      · exact readQuoted_plain ordinary.2.1 (fun isDollar => absurd isDollar ordinary.2.2) noNewline
          ordinary.1

/-- Escaped text is read as the pieces of its characters, whatever follows. -/
theorem readQuoted_text (content cs : List Char) :
    readQuoted '"' (content.flatMap escapeChar ++ cs) =
      (readQuoted '"' cs).map fun read => (content.map escapePiece ++ read.1, read.2) := by
  induction content with
  | nil => simp
  | cons c content ih =>
      rw [List.flatMap_cons, List.append_assoc, readQuoted_escapePiece, ih, Option.map_map]
      rfl

/-- Closed fragments are read as they were written, whatever follows them. -/
theorem readQuoted_fragments {fragments : List Fragment}
    (closed : ∀ fragment ∈ fragments, fragment.Closed) (cs : List Char) :
    readQuoted '"' (fragments.flatMap Fragment.written ++ cs) =
      (readQuoted '"' cs).map
        fun read => (fragments.flatMap Fragment.pieces ++ read.1, read.2) := by
  induction fragments with
  | nil => simp
  | cons fragment fragments ih =>
      rw [List.forall_mem_cons] at closed
      rw [List.flatMap_cons, List.append_assoc]
      cases fragment with
      | text content =>
          rw [Fragment.written, readQuoted_text, ih closed.2, Option.map_map]
          congr 1
          funext read
          simp [Fragment.pieces]
      | reference body =>
          have found := readBody_local closed.1 (fragments.flatMap Fragment.written ++ cs)
          have spelled : (Fragment.reference body).written ++
              (fragments.flatMap Fragment.written ++ cs) = '$' :: '(' ::
                (body.toList ++ ')' :: (fragments.flatMap Fragment.written ++ cs)) := by
            simp [Fragment.written]
          rw [spelled, readQuoted_reference found, ih closed.2, Option.map_map]
          rfl

/-- The piece of a character stands for that character. -/
theorem escaped_escapePiece (c : Char) (pieces : List Piece) :
    Span.ofPieces (escapePiece c :: pieces) = Span.prepend [c] (Span.ofPieces pieces) := by
  unfold escapePiece
  split
  · rename_i special
    rcases special with rfl | rfl | rfl <;> rfl
  · split
    · rename_i isNewline
      rw [isNewline]
      rfl
    · split
      · rename_i isTab
        rw [isTab]
        rfl
      · rfl

/-- Pieces that do not start with text. -/
def Textless : List Piece → Prop
  | [] | .reference _ :: _ => True
  | _ => False

/-- Pieces of text become a single fragment up to the next reference. -/
theorem ofPieces_text {content : List Char} (some : content ≠ []) {pieces : List Piece}
    (textless : Textless pieces) :
    Span.ofPieces (content.map escapePiece ++ pieces) = .text content :: Span.ofPieces pieces := by
  induction content with
  | nil => exact absurd rfl some
  | cons c content ih =>
      rw [List.map_cons, List.cons_append, escaped_escapePiece]
      cases content with
      | nil =>
          match pieces, textless with
          | [], _ => rfl
          | .reference _ :: _, _ => rfl
      | cons d content => rw [ih (by simp), Span.prepend, List.singleton_append]

/-- Separated fragments are what is made of their pieces. -/
theorem join_pieces {fragments : List Fragment} (separated : Separated fragments)
    {pieces : List Piece} (textless : Textless pieces) :
    Piece.join (fragments.flatMap Fragment.pieces ++ pieces) = fragments ++ Piece.join pieces := by
  unfold Piece.join
  induction fragments with
  | nil => rfl
  | cons fragment fragments ih =>
      obtain ⟨full, apart⟩ := separated
      have others := ih ⟨fun content member => full content (by simp [member]), apart.tail⟩
      rw [List.flatMap_cons, List.append_assoc]
      cases fragment with
      | reference body =>
          rw [Fragment.pieces, List.singleton_append, Span.ofPieces, List.map_cons, others,
            Span.toFragment, String.ofList_toList, List.cons_append]
      | text content =>
          have some : content.toList ≠ [] := by
            intro empty
            exact full content (by simp) (String.toList_eq_nil_iff.mp empty)
          have noText : Textless (fragments.flatMap Fragment.pieces ++ pieces) := by
            cases fragments with
            | nil => exact textless
            | cons next fragments =>
                cases next with
                | reference body => trivial
                | text other => exact absurd ⟨rfl, rfl⟩ (List.isChain_cons_cons.mp apart).1
          rw [Fragment.pieces, ofPieces_text some noText, List.map_cons, others, Span.toFragment,
            String.ofList_toList, List.cons_append]

theorem kindsOf_doubleQuote (cs : List Char) :
    kindsOf ('"' :: cs) = (Lexed.quoted '"' cs).kind :: kindsOf (Lexed.quoted '"' cs).rest :=
  kindsOf_mark (by simp [markChars]) cs

/-- The fragments of a literal are what is made of their pieces. -/
theorem literalFragments_pieces {fragments : List Fragment}
    (lexical : (TokenKind.literal fragments).Lexical) :
    literalFragments (fragments.flatMap Fragment.pieces) = fragments := by
  rcases lexical with rfl | ⟨some, separated⟩
  · rfl
  · have whole : Piece.join (fragments.flatMap Fragment.pieces) = fragments := by
      have joined := @join_pieces _ separated [] trivial
      rw [List.append_nil] at joined
      rw [joined]
      exact List.append_nil fragments
    unfold literalFragments
    split
    · rename_i empty
      exact absurd (whole.symm.trans empty) some
    · exact whole

/-- Fragments in double quotes are one token. -/
theorem kindsOf_quoted {fragments : List Fragment}
    (lexical : (TokenKind.literal fragments).Lexical)
    (closed : ∀ fragment ∈ fragments, fragment.Closed) (rest : List Char) :
    kindsOf ('"' :: (fragments.flatMap Fragment.written ++ '"' :: rest)) =
      .literal fragments :: kindsOf rest := by
  have read := readQuoted_fragments closed ('"' :: rest)
  rw [readQuoted_end (.inl rfl), Option.map_some, List.append_nil] at read
  rw [kindsOf_doubleQuote, Lexed.quoted, read]
  simp only [literalFragments_pieces lexical]

/-- Whatever the body of a reference is read as, the fragments in front of it are read as they
were written. -/
theorem kind_quoted_reference {fragments : List Fragment} (separated : Separated fragments)
    (closed : ∀ fragment ∈ fragments, fragment.Closed) (cs : List Char) :
    (Lexed.quoted '"' (fragments.flatMap Fragment.written ++ '$' :: '(' :: cs)).kind = .unknown ∨
      ∃ body after others, readBody 0 none cs = some (body, after) ∧
        (Lexed.quoted '"' (fragments.flatMap Fragment.written ++ '$' :: '(' :: cs)).kind =
          .literal (fragments ++ .reference (String.ofList body) :: others) := by
  have read := readQuoted_fragments closed ('$' :: '(' :: cs)
  cases found : readBody 0 none cs with
  | none =>
      rw [readQuoted_unclosed found, Option.map_none] at read
      rw [Lexed.quoted, read]
      exact .inl rfl
  | some pair =>
      obtain ⟨body, after⟩ := pair
      rw [readQuoted_reference found, Option.map_map] at read
      cases further : readQuoted '"' after with
      | none =>
          rw [further, Option.map_none] at read
          rw [Lexed.quoted, read]
          exact .inl rfl
      | some pair =>
          obtain ⟨pieces, rest⟩ := pair
          rw [further, Option.map_some] at read
          refine .inr ⟨body, after, Piece.join pieces, rfl, ?_⟩
          have joined := @join_pieces _ separated (.reference body :: pieces) trivial
          rw [Lexed.quoted, read]
          simp only [Function.comp_apply, TokenKind.literal.injEq, literalFragments, joined]
          split
          · rename_i empty
            simp [Piece.join, Span.ofPieces] at empty
          · rfl

/-! ## Text on its own -/

@[simp] theorem toList_escape (content : String) :
    (escape content).toList = content.toList.flatMap escapeChar := by
  rw [escape, String.toList_ofList]

@[simp] theorem toList_inQuotes (escaped : String) :
    (inQuotes escaped).toList = '"' :: (escaped.toList ++ ['"']) := by
  simp [inQuotes]

/-- Text on its own is a literal that the lexer can make, also if it is empty. -/
theorem lexical_text (content : String) : (TokenKind.literal [.text content]).Lexical := by
  by_cases empty : content = ""
  · rw [empty]
    exact .inl rfl
  · exact .inr ⟨by simp, by simp [empty], .singleton _⟩

/-- Text in double quotes is one token, which ends with the closing mark. -/
theorem Lexed.quoted_text (content : String) (rest : List Char) :
    quoted '"' (content.toList.flatMap escapeChar ++ '"' :: rest) =
      ⟨.literal [.text content], content.toList.flatMap escapeChar ++ ['"'], rest⟩ := by
  have read := readQuoted_text content.toList ('"' :: rest)
  rw [readQuoted_end (.inl rfl), Option.map_some, List.append_nil] at read
  have fragments : literalFragments (content.toList.map escapePiece) = [.text content] := by
    have whole := literalFragments_pieces (lexical_text content)
    rwa [List.flatMap_singleton] at whole
  have written : (content.toList.map escapePiece).flatMap Piece.written =
      content.toList.flatMap escapeChar := by
    simp only [List.flatMap_map, written_escapePiece]
  rw [quoted, read]
  simp only [fragments, written]

/-- Inside of quotes, the reader of a body passes over what stands for a character. -/
theorem readBody_escapeChar (depth : Nat) (c : Char) (rest : List Char) :
    readBody depth (some '"') (escapeChar c ++ rest) =
      readBefore (escapeChar c) (readBody depth (some '"') rest) := by
  unfold escapeChar
  split_ifs with isQuote isBackslash isDollar isNewline isTab
  all_goals rw [readBody.eq_def]
  all_goals simp_all

/-- The reader of a body passes over text in double quotes, and is outside of quotes behind it. -/
theorem readBody_text (depth : Nat) (content rest : List Char) :
    readBody depth none ('"' :: (content.flatMap escapeChar ++ '"' :: rest)) =
      readBefore ('"' :: (content.flatMap escapeChar ++ ['"'])) (readBody depth none rest) := by
  have inside : readBody depth (some '"') (content.flatMap escapeChar ++ '"' :: rest) =
      readBefore (content.flatMap escapeChar ++ ['"']) (readBody depth none rest) := by
    induction content with
    | nil =>
        rw [List.flatMap_nil, List.nil_append, readBody.eq_def]
        simp
    | cons c content ih =>
        rw [List.flatMap_cons, List.append_assoc, readBody_escapeChar, ih, readBefore_readBefore,
          List.append_assoc]
  rw [readBody.eq_def]
  simp [inside, readBefore_readBefore]

/-- **Escaped text reads as itself.** Whatever characters a text has and whatever follows, its
quoted form is read as one token, which holds just that text and ends with the closing quote mark.
The reader of a reference body passes over the quoted form, with as many parentheses open behind it
as before it and outside of quotes; in particular, the quoted form is the whole body of a reference
that is closed right behind it. -/
theorem escape_inverted (content : String) (rest : List Char) :
    (∀ line, tokensFrom line ((inQuotes (escape content)).toList ++ rest) =
      ⟨.literal [.text content], inQuotes (escape content), line⟩ :: tokensFrom line rest) ∧
    (∀ depth, readBody depth none ((inQuotes (escape content)).toList ++ rest) =
      readBefore (inQuotes (escape content)).toList (readBody depth none rest)) ∧
    readBody 0 none ((inQuotes (escape content)).toList ++ ')' :: rest) =
      some ((inQuotes (escape content)).toList, rest) := by
  have spelled (after : List Char) : (inQuotes (escape content)).toList ++ after =
      '"' :: (content.toList.flatMap escapeChar ++ '"' :: after) := by
    simp
  have passed (depth : Nat) (after : List Char) :
      readBody depth none ((inQuotes (escape content)).toList ++ after) =
        readBefore (inQuotes (escape content)).toList (readBody depth none after) := by
    rw [spelled, readBody_text, toList_inQuotes, toList_escape]
  refine ⟨fun line => ?_, fun depth => passed depth rest, ?_⟩
  · have read : Lexed.read '"' (content.toList.flatMap escapeChar ++ '"' :: rest) =
        ⟨.literal [.text content], content.toList.flatMap escapeChar ++ ['"'], rest⟩ :=
      Lexed.quoted_text content rest
    have lexeme : String.ofList ('"' :: (content.toList.flatMap escapeChar ++ ['"'])) =
        inQuotes (escape content) := by
      rw [← String.ofList_toList (s := inQuotes (escape content)), toList_inQuotes, toList_escape]
    rw [spelled, tokensFrom, if_neg (by decide), if_neg (by decide), if_neg (by decide)]
    simp only [read, lexeme]
  · have closed : readBody 0 none (')' :: rest) = some ([], rest) := by
      simp [readBody]
    rw [passed, closed]
    simp [readBefore]

end ChatScript
