import ChatScript.Token.Lexer
import Mathlib.Data.List.Chain

/-! # The tokens that a text can have

The lexer makes an identifier only out of a name (`isName`), a number only within the range of
scripts, and the fragments of a string literal only so that text is never empty and never next to
other text (`Separated`), the empty literal excepted. `lexical_of_mem_tokenize` says this of every
token of every text.
-/

namespace ChatScript

/-- The words that stand for something else than a name. -/
def reservedWords : List String :=
  ["set", "when", "then", "else", "end", "send", "true", "false"]

/-- Whether a text is a letter or an underscore followed by letters, digits and underscores, and
no reserved word. -/
def isName (name : String) : Bool :=
  match name.toList with
  | [] => false
  | c :: cs => isWordStart c && cs.all isWordChar && !reservedWords.contains name

/-- Whether a fragment is text. -/
def Fragment.isText : Fragment → Bool
  | .text _ => true
  | .reference _ => false

/-- No text is empty, and no two texts stand next to each other. -/
def Separated (fragments : List Fragment) : Prop :=
  (∀ content, .text content ∈ fragments → content ≠ "") ∧
    fragments.IsChain fun first second => ¬ (first.isText ∧ second.isText)

/-- What the lexer guarantees about a token of each kind. -/
def TokenKind.Lexical : TokenKind → Prop
  | .identifier name => isName name
  | .number value => value ≤ Text.maxNumber.toNat
  | .literal fragments => fragments = [.text ""] ∨ fragments ≠ [] ∧ Separated fragments
  | _ => True

/-- A word that no keyword is spelled as is no keyword. -/
theorem ofSpelling?_eq_none_iff {word : String} :
    Keyword.ofSpelling? word = none ↔ ∀ keyword : Keyword, keyword.spelling ≠ word := by
  simp only [Keyword.ofSpelling?, List.find?_eq_none, beq_iff_eq]
  constructor
  · intro absent keyword
    exact absent keyword (by cases keyword <;> simp)
  · intro absent keyword _
    exact absent keyword

/-- The words that are not reserved are neither keywords nor the two truth values. -/
theorem not_mem_reservedWords_iff {word : String} :
    word ∉ reservedWords ↔
      word ≠ "true" ∧ word ≠ "false" ∧ Keyword.ofSpelling? word = none := by
  rw [ofSpelling?_eq_none_iff]
  constructor
  · intro absent
    simp only [reservedWords, List.mem_cons, List.not_mem_nil, or_false, not_or] at absent
    refine ⟨absent.2.2.2.2.2.2.1, absent.2.2.2.2.2.2.2, ?_⟩
    intro keyword spelled
    cases keyword <;> simp_all [Keyword.spelling]
  · rintro ⟨notTrue, notFalse, absent⟩
    simp only [reservedWords, List.mem_cons, List.not_mem_nil, or_false, not_or]
    exact ⟨(absent .set).symm, (absent .when).symm, (absent .then).symm, (absent .else).symm,
      (absent .end).symm, (absent .send).symm, notTrue, notFalse⟩

/-- A name is a word that is not reserved. -/
theorem isName_iff {name : String} : isName name ↔
    (∃ c cs, name.toList = c :: cs ∧ isWordStart c ∧ ∀ d ∈ cs, isWordChar d) ∧
      name ∉ reservedWords := by
  unfold isName
  split
  · rename_i empty
    simp [empty]
  · rename_i c cs spelled
    simp [spelled, and_assoc]

theorem wordKind_of_isName {name : String} (valid : isName name) :
    wordKind name = .identifier name := by
  obtain ⟨-, unreserved⟩ := isName_iff.mp valid
  obtain ⟨notTrue, notFalse, absent⟩ := not_mem_reservedWords_iff.mp unreserved
  simp [wordKind, notTrue, notFalse, absent]

/-- A word that is read as an identifier is a name. -/
theorem lexical_wordKind {c : Char} {cs : List Char} (starts : isWordStart c)
    (goesOn : ∀ d ∈ cs, isWordChar d) : (wordKind (String.ofList (c :: cs))).Lexical := by
  unfold wordKind
  split
  · trivial
  · rename_i notTrue
    split
    · trivial
    · rename_i notFalse
      split
      · trivial
      · rename_i absent
        refine isName_iff.mpr ⟨⟨c, cs, by simp, starts, goesOn⟩, ?_⟩
        exact not_mem_reservedWords_iff.mpr ⟨notTrue, notFalse, absent⟩

/-- Digits that are read as a number are in range. -/
theorem lexical_digitsKind (digits : List Char) : (digitsKind digits).Lexical := by
  unfold digitsKind
  split
  · rename_i value found
    rw [Text.readUpTo?_eq, Option.filter_eq_some_iff] at found
    simpa [TokenKind.Lexical] using found.2
  · trivial

/-- Text put in front of separated fragments joins the text that they start with. -/
theorem separated_prepend {cs : List Char} (some : cs ≠ []) {spans : List Span}
    (separated : Separated (spans.map Span.toFragment)) :
    Separated ((Span.prepend cs spans).map Span.toFragment) := by
  obtain ⟨full, apart⟩ := separated
  unfold Span.prepend
  split
  · rename_i content others
    constructor
    · intro text member
      simp only [List.map_cons, List.mem_cons] at member
      rcases member with isFirst | inside
      · simp only [Span.toFragment, Fragment.text.injEq] at isFirst
        subst isFirst
        simp [← String.toList_inj, some]
      · exact full text (by simp [inside])
    · cases others with
      | nil => exact .singleton _
      | cons next others =>
          simp only [List.map_cons, List.isChain_cons_cons] at apart ⊢
          exact apart
  · rename_i textless
    constructor
    · intro text member
      simp only [List.map_cons, List.mem_cons] at member
      rcases member with isFirst | inside
      · simp only [Span.toFragment, Fragment.text.injEq] at isFirst
        subst isFirst
        simp [← String.toList_inj, some]
      · exact full text inside
    · cases spans with
      | nil => exact .singleton _
      | cons next others =>
          cases next with
          | text content => exact absurd rfl (textless content others)
          | reference body =>
              simp only [List.map_cons, List.isChain_cons_cons]
              exact ⟨by simp [Span.toFragment, Fragment.isText], apart⟩

theorem escaped_ne_nil (c : Char) : Piece.escaped c ≠ [] := by
  unfold Piece.escaped
  split
  · simp
  · split
    · simp
    · split <;> simp

/-- Pieces are joined to fragments of which no two texts are next to each other. -/
theorem separated_join (pieces : List Piece) : Separated (Piece.join pieces) := by
  unfold Piece.join
  induction pieces with
  | nil => exact ⟨by simp [Span.ofPieces], .nil⟩
  | cons piece pieces ih =>
      cases piece with
      | plain c => exact separated_prepend (by simp) ih
      | escape c => exact separated_prepend (escaped_ne_nil c) ih
      | reference body =>
          obtain ⟨full, apart⟩ := ih
          constructor
          · intro text member
            simp only [Span.ofPieces, List.map_cons, Span.toFragment, List.mem_cons,
              reduceCtorEq, false_or] at member
            exact full text member
          · exact List.isChain_cons.mpr ⟨by simp [Span.toFragment, Fragment.isText], apart⟩

theorem lexical_literalFragments (pieces : List Piece) :
    (TokenKind.literal (literalFragments pieces)).Lexical := by
  unfold literalFragments
  split
  · exact .inl rfl
  · rename_i some
    exact .inr ⟨some, separated_join pieces⟩

/-- Whatever a token is read as, its name, number or fragments are well formed. -/
theorem lexical_read (c : Char) (cs : List Char) : (Lexed.read c cs).kind.Lexical := by
  fun_cases Lexed.read c cs with
  | case7 | case8 | case9 | case10 =>
      unfold Lexed.withEquals
      split <;> trivial
  | case11 =>
      unfold Lexed.quoted
      split
      · exact lexical_literalFragments _
      · trivial
  | case12 => exact lexical_digitsKind _
  | case13 =>
      rename_i starts
      refine lexical_wordKind starts fun d member => ?_
      exact List.all_eq_true.mp List.all_takeWhile d member
  | _ => trivial

/-- The names, numbers and fragments of all tokens of a text are well formed. -/
theorem lexical_of_mem_tokensFrom {line : Nat} {cs : List Char} {token : Token}
    (member : token ∈ tokensFrom line cs) : token.kind.Lexical := by
  fun_induction tokensFrom line cs with
  | case1 => simp at member
  | case2 _ _ ih | case3 _ _ _ _ _ ih => exact ih member
  | case4 _ _ _ _ ih =>
      rcases List.mem_cons.mp member with rfl | inside
      · trivial
      · exact ih inside
  | case5 line c rest _ _ _ _ ih =>
      rcases List.mem_cons.mp member with rfl | inside
      · exact lexical_read c rest
      · exact ih inside

/-- Every token of a text is one that the lexer can make. -/
theorem lexical_of_mem_tokenize {source : String} {kind : TokenKind}
    (member : kind ∈ (tokenize source).map Token.kind) : kind.Lexical := by
  obtain ⟨token, inside, rfl⟩ := List.mem_map.mp member
  exact lexical_of_mem_tokensFrom inside

end ChatScript
