import ChatScript.Program
import ChatScript.Proofs.Vocabulary
import Mathlib.Data.List.TakeWhile

/-! # Reading a text piece by piece

A token is read without regard to what follows it, as long as what follows does not continue it.
So the kinds of the tokens of a text (`kindsOf`) can be computed from its front to its end: this
module does so for words, numbers, marks and blanks. The readers of reference bodies and of quoted
text look no further than the mark that ends them either (`readBody_local`, `readQuoted_local`),
and `kindsOf_cut` says what is left of the tokens when a line is cut off.
-/

namespace ChatScript

/-- The kinds of the tokens of a text. -/
def kindsOf (cs : List Char) : List TokenKind :=
  (tokensFrom 1 cs).map Token.kind

/-- A newline is a token, and the tokens behind it are on the next line. -/
theorem tokensFrom_newline (line : Nat) (cs : List Char) :
    tokensFrom line ('\n' :: cs) = ⟨.newline, "\n", line⟩ :: tokensFrom (line + 1) cs := by
  rw [tokensFrom, if_neg (by decide), if_neg (by decide), if_pos rfl]

/-- A token that many lines further down. -/
def Token.shift (lines : Nat) (token : Token) : Token :=
  { token with line := token.line + lines }

/-- What line a text starts on matters only to the lines of its tokens. -/
theorem tokensFrom_add (line lines : Nat) (cs : List Char) :
    tokensFrom (line + lines) cs = (tokensFrom line cs).map (Token.shift lines) := by
  fun_induction tokensFrom line cs with
  | case1 line => rw [tokensFrom, List.map_nil]
  | case2 line rest ih => rw [tokensFrom, if_pos rfl, ih]
  | case3 line c rest noComment gap ih => rw [tokensFrom, if_neg noComment, if_pos gap, ih]
  | case4 line rest noComment noGap ih =>
      rw [tokensFrom_newline, Nat.add_right_comm, ih]
      rfl
  | case5 line c rest noComment noGap noNewline token ih =>
      rw [tokensFrom, if_neg noComment, if_neg noGap, if_neg noNewline]
      exact congrArg _ ih

/-- The kinds of the tokens do not depend on the line that a text starts on. -/
theorem map_kind_tokensFrom (line other : Nat) (cs : List Char) :
    (tokensFrom line cs).map Token.kind = (tokensFrom other cs).map Token.kind := by
  have fromZero (line : Nat) :
      (tokensFrom line cs).map Token.kind = (tokensFrom 0 cs).map Token.kind := by
    rw [← Nat.zero_add line, tokensFrom_add, List.map_map]
    rfl
  rw [fromZero line, fromZero other]

@[simp] theorem map_kind_tokenize (source : String) :
    (tokenize source).map Token.kind = kindsOf source.toList := rfl

@[simp] theorem kindsOf_nil : kindsOf [] = [] := by
  rw [kindsOf, tokensFrom, List.map_nil]

/-- A comment goes up to the newline and leaves no token. -/
theorem kindsOf_comment (cs : List Char) :
    kindsOf ('#' :: cs) = kindsOf (cs.dropWhile (· != '\n')) := by
  rw [kindsOf, tokensFrom, if_pos rfl, kindsOf]

/-- Gaps leave no token. -/
theorem tokensFrom_gap {gap : List Char} (blank : gap.all isGap) (line : Nat) (cs : List Char) :
    tokensFrom line (gap ++ cs) = tokensFrom line cs := by
  induction gap with
  | nil => rfl
  | cons c gap ih =>
      rw [List.all_cons, Bool.and_eq_true] at blank
      have noComment : c ≠ '#' := by
        rintro rfl
        exact absurd blank.1 (by decide)
      rw [List.cons_append, tokensFrom, if_neg noComment, if_pos blank.1, ih blank.2]

theorem kindsOf_gaps {gap : List Char} (blank : gap.all isGap) (cs : List Char) :
    kindsOf (gap ++ cs) = kindsOf cs := by
  rw [kindsOf, tokensFrom_gap blank, kindsOf]

theorem kindsOf_gap {c : Char} (gap : isGap c) (cs : List Char) :
    kindsOf (c :: cs) = kindsOf cs := by
  have blank : [c].all isGap := by simp [gap]
  exact kindsOf_gaps blank cs

@[simp] theorem kindsOf_space (cs : List Char) : kindsOf (' ' :: cs) = kindsOf cs :=
  kindsOf_gap (by decide) cs

@[simp] theorem kindsOf_newline (cs : List Char) :
    kindsOf ('\n' :: cs) = .newline :: kindsOf cs := by
  rw [kindsOf, tokensFrom_newline, List.map_cons, map_kind_tokensFrom _ 1, kindsOf]

/-- The characters that a token starts with which is neither a word nor a number. -/
def markChars : List Char :=
  ['(', ')', ',', '$', '+', '-', '=', '!', '<', '>', '"', '\'']

/-- The characters between tokens, and the one that starts a comment. -/
def blankChars : List Char :=
  ['#', ' ', '\t', '\r', '\n']

/-- What is not blank is read as the start of a token. -/
theorem not_mem_blankChars_iff {c : Char} :
    c ∉ blankChars ↔ c ≠ '#' ∧ ¬isGap c ∧ c ≠ '\n' := by
  simp [blankChars, isGap, and_assoc]

/-- The first character that is not blank decides how its token is read. -/
theorem kindsOf_token {c : Char} (noBlank : c ∉ blankChars) (cs : List Char) :
    kindsOf (c :: cs) = (Lexed.read c cs).kind :: kindsOf (Lexed.read c cs).rest := by
  obtain ⟨noComment, noGap, noNewline⟩ := not_mem_blankChars_iff.mp noBlank
  rw [kindsOf, tokensFrom, if_neg noComment, if_neg noGap, if_neg noNewline, List.map_cons, kindsOf]

theorem kindsOf_mark {c : Char} (isMark : c ∈ markChars) (cs : List Char) :
    kindsOf (c :: cs) = (Lexed.read c cs).kind :: kindsOf (Lexed.read c cs).rest := by
  apply kindsOf_token
  have apart : markChars.all (!blankChars.contains ·) = true := by decide
  simpa using List.all_eq_true.mp apart c isMark

@[simp] theorem kindsOf_openParen (cs : List Char) :
    kindsOf ('(' :: cs) = .openParen :: kindsOf cs :=
  kindsOf_mark (by simp [markChars]) cs

@[simp] theorem kindsOf_closeParen (cs : List Char) :
    kindsOf (')' :: cs) = .closeParen :: kindsOf cs :=
  kindsOf_mark (by simp [markChars]) cs

@[simp] theorem kindsOf_comma (cs : List Char) : kindsOf (',' :: cs) = .comma :: kindsOf cs :=
  kindsOf_mark (by simp [markChars]) cs

@[simp] theorem kindsOf_dollar (cs : List Char) : kindsOf ('$' :: cs) = .dollar :: kindsOf cs :=
  kindsOf_mark (by simp [markChars]) cs

@[simp] theorem kindsOf_minus (cs : List Char) :
    kindsOf ('-' :: cs) = .operator .minus :: kindsOf cs :=
  kindsOf_mark (by simp [markChars]) cs

/-- The mark that an operation is written with. -/
def BinaryOp.mark : BinaryOp → Operator
  | .add => .plus
  | .subtract => .minus
  | .equal => .equal
  | .notEqual => .notEqual
  | .less => .less
  | .lessEqual => .lessEqual
  | .greater => .greater
  | .greaterEqual => .greaterEqual

/-- The symbol of an operator in front of a space is one token, also where a shorter symbol begins
it. -/
theorem kindsOf_symbol (op : BinaryOp) (cs : List Char) :
    kindsOf (op.symbol.toList ++ ' ' :: cs) = .operator op.mark :: kindsOf cs := by
  rw [← kindsOf_space cs]
  cases op <;> exact kindsOf_mark (by decide) _

/-- A word or a number ends where the rest begins. -/
def EndsWord (rest : List Char) : Prop :=
  ∀ c ∈ rest.head?, isWordChar c = false

theorem endsWord_nil : EndsWord [] := by
  simp [EndsWord]

/-- Whatever is not part of a word ends one. -/
theorem endsWord_cons (c : Char) (isEnd : isWordChar c = false) (cs : List Char) :
    EndsWord (c :: cs) := by
  simp [EndsWord, isEnd]

/-- Characters that belong to a word are taken up to where it ends, and no further. -/
theorem takeWhile_append_of_endsWord {belongs : Char → Bool} {word rest : List Char}
    (inside : ∀ c ∈ word, belongs c) (narrow : ∀ c, belongs c → isWordChar c)
    (ends : EndsWord rest) :
    (word ++ rest).takeWhile belongs = word ∧ (word ++ rest).dropWhile belongs = rest := by
  rw [List.takeWhile_append_of_pos inside, List.dropWhile_append_of_pos inside]
  cases rest with
  | nil => simp
  | cons c cs =>
      have outside : belongs c = false := by
        by_contra belongs
        have := narrow c (by simpa using belongs)
        simp [ends c rfl] at this
      simp [outside]

/-- A word may go on with digits. -/
theorem isWordChar_of_isDigit {c : Char} (digit : c.isDigit) : isWordChar c := by
  simp [isWordChar, Char.isAlphanum, digit]

theorem isWordChar_of_isWordStart {c : Char} (starts : isWordStart c) : isWordChar c := by
  simp only [isWordStart, isWordChar, Char.isAlphanum, Bool.or_eq_true] at starts ⊢
  tauto

/-- The two ranges of the letters, both above the digits. -/
theorem toNat_of_isAlpha {c : Char} (letter : c.isAlpha) :
    65 ≤ c.toNat ∧ c.toNat ≤ 90 ∨ 97 ≤ c.toNat ∧ c.toNat ≤ 122 := by
  rcases Bool.or_eq_true_iff.mp letter with upper | lower
  · exact .inl (of_decide_eq_true upper)
  · obtain ⟨least, most⟩ := Bool.and_eq_true_iff.mp lower
    exact .inr ⟨of_decide_eq_true least, of_decide_eq_true most⟩

/-- No word starts with a digit, so numbers and words are told apart by their first character. -/
theorem not_isDigit_of_isWordStart {c : Char} (starts : isWordStart c) : c.isDigit = false := by
  by_contra digit
  have digits : 48 ≤ c.toNat ∧ c.toNat ≤ 57 := Char.isDigit_iff_toNat.mp (by simpa using digit)
  rcases Bool.or_eq_true_iff.mp starts with letter | underscore
  · have letters := toNat_of_isAlpha letter
    omega
  · simp [beq_iff_eq.mp underscore] at digits

theorem not_isWordChar_of_isBlank {c : Char} (blank : Text.isBlank c) : isWordChar c = false := by
  by_contra inWord
  replace inWord : isWordChar c := by simpa using inWord
  have range : 48 ≤ c.toNat ∧ c.toNat ≤ 122 := by
    rcases Bool.or_eq_true_iff.mp inWord with letter | underscore
    · rcases Bool.or_eq_true_iff.mp letter with letter | digit
      · have letters := toNat_of_isAlpha letter
        omega
      · have digits : 48 ≤ c.toNat ∧ c.toNat ≤ 57 := Char.isDigit_iff_toNat.mp digit
        omega
    · rw [beq_iff_eq.mp underscore]
      decide
  simp [Text.isBlank, Text.CharClass.contains, Text.blanks] at blank
  omega

/-- No character of a word is a mark or blank. -/
theorem not_mem_of_isWordChar {c : Char} (inWord : isWordChar c) :
    c ∉ markChars ∧ c ∉ blankChars := by
  have none : (markChars ++ blankChars).all (!isWordChar ·) = true := by decide
  rw [← not_or, ← List.mem_append]
  intro member
  have outside := List.all_eq_true.mp none c member
  rw [inWord] at outside
  exact Bool.false_ne_true outside

/-- A character of a word starts a number, a word or, if it can start neither, an unknown token. -/
theorem Lexed.read_of_isWordChar {c : Char} (inWord : isWordChar c) (cs : List Char) :
    Lexed.read c cs =
      if c.isDigit then .run digitsKind Char.isDigit c cs
      else if isWordStart c then .run (fun word => wordKind (String.ofList word)) isWordChar c cs
      else ⟨.unknown, [], cs⟩ := by
  have noMark := (not_mem_of_isWordChar inWord).1
  simp only [markChars, List.mem_cons, List.not_mem_nil, or_false, not_or] at noMark
  simp only [read, noMark, ↓reduceIte, or_self]

/-- A letter or an underscore starts a word. -/
theorem Lexed.read_word {c : Char} (starts : isWordStart c) (cs : List Char) :
    Lexed.read c cs = .run (fun word => wordKind (String.ofList word)) isWordChar c cs := by
  rw [read_of_isWordChar (isWordChar_of_isWordStart starts),
    if_neg (by simp [not_isDigit_of_isWordStart starts]), if_pos starts]

/-- A digit starts a number. -/
theorem Lexed.read_digits {c : Char} (digit : c.isDigit) (cs : List Char) :
    Lexed.read c cs = .run digitsKind Char.isDigit c cs := by
  rw [read_of_isWordChar (isWordChar_of_isDigit digit), if_pos digit]

/-- A word or a number is one token if what follows it ends a word. -/
theorem kindsOf_run {belongs : Char → Bool} {kind : List Char → TokenKind} {c : Char}
    {word rest : List Char} (first : isWordChar c) (inside : ∀ d ∈ word, belongs d)
    (narrow : ∀ d, belongs d → isWordChar d) (ends : EndsWord rest)
    (read : ∀ cs, Lexed.read c cs = .run kind belongs c cs) :
    kindsOf (c :: word ++ rest) = kind (c :: word) :: kindsOf rest := by
  obtain ⟨taken, left⟩ := takeWhile_append_of_endsWord inside narrow ends
  rw [List.cons_append, kindsOf_token (not_mem_of_isWordChar first).2, read, Lexed.run, taken, left]

/-- A word is read as far as it goes. -/
theorem kindsOf_word {word : String} {c : Char} {cs rest : List Char}
    (spelled : word.toList = c :: cs) (starts : isWordStart c) (goesOn : cs.all isWordChar)
    (ends : EndsWord rest) : kindsOf (word.toList ++ rest) = wordKind word :: kindsOf rest := by
  rw [spelled, kindsOf_run (isWordChar_of_isWordStart starts) (List.all_eq_true.mp goesOn)
    (fun _ => id) ends (Lexed.read_word starts), ← spelled, String.ofList_toList]

/-- A name is read as itself. -/
theorem kindsOf_name {name : String} (valid : isName name) {rest : List Char}
    (ends : EndsWord rest) : kindsOf (name.toList ++ rest) = .identifier name :: kindsOf rest := by
  obtain ⟨⟨c, cs, spelled, starts, goesOn⟩, -⟩ := isName_iff.mp valid
  rw [kindsOf_word spelled starts (List.all_eq_true.mpr goesOn) ends, wordKind_of_isName valid]

/-- The digits of a number that is in range are read as that number. -/
theorem digitsKind_repr {value : Nat} (small : value ≤ Text.maxNumber.toNat) :
    digitsKind value.repr.toList = .number value := by
  rw [digitsKind, Text.readUpTo?_repr small]

/-- A number is read as far as its digits go. -/
theorem kindsOf_number {value : Nat} (small : value ≤ Text.maxNumber.toNat) {rest : List Char}
    (ends : EndsWord rest) :
    kindsOf (value.repr.toList ++ rest) = .number value :: kindsOf rest := by
  have digits : ∀ c ∈ value.repr.toList, c.isDigit :=
    fun _ member => Text.isDigit_of_mem_repr member
  rw [← digitsKind_repr small]
  cases spelled : value.repr.toList with
  | nil => exact absurd spelled (by rw [Nat.toList_repr]; exact Nat.toDigits_ne_nil)
  | cons c cs =>
      rw [spelled] at digits
      have first := digits c (by simp)
      exact kindsOf_run (isWordChar_of_isDigit first) (fun d member => digits d (by simp [member]))
        (fun d => isWordChar_of_isDigit) ends (Lexed.read_digits first)

/-! ## Readers that stop at a mark -/

/-- Characters passed over one after the other are passed over together. -/
theorem readBefore_readBefore {α : Type} (first second : List Char)
    (read : Option (List Char × α)) :
    readBefore first (readBefore second read) = readBefore (first ++ second) read := by
  cases read <;> simp [readBefore]

/-- Whether a character means nothing to the reader of a body outside of quotes. -/
def isOrdinary (c : Char) : Bool :=
  c != '\n' && c != '"' && c != '\'' && c != '(' && c != ')'

/-- Nothing in a word ends a reference body or opens quotes in it. -/
theorem isOrdinary_of_isWordChar {c : Char} (inWord : isWordChar c) : isOrdinary c := by
  obtain ⟨noMark, noBlank⟩ := not_mem_of_isWordChar inWord
  simp only [markChars, blankChars, List.mem_cons, List.not_mem_nil, or_false, not_or]
    at noMark noBlank
  simp [isOrdinary, noMark, noBlank]

/-- Ordinary characters are passed over when the end of a body is looked for. -/
theorem readBody_ordinary {word : List Char} (ordinary : word.all isOrdinary) (depth : Nat)
    (rest : List Char) :
    readBody depth none (word ++ rest) = readBefore word (readBody depth none rest) := by
  induction word with
  | nil => cases read : readBody depth none rest <;> simp [readBefore, read]
  | cons c cs ih =>
      rw [List.all_cons, Bool.and_eq_true] at ordinary
      have first := ordinary.1
      simp only [isOrdinary, Bool.and_eq_true, bne_iff_ne] at first
      have step : readBody depth none (c :: (cs ++ rest)) =
          readBefore [c] (readBody depth none (cs ++ rest)) := by
        rw [readBody.eq_def]
        simp [first]
      rw [List.cons_append, step, ih ordinary.2, readBefore_readBefore, List.singleton_append]

/-- Reading a body looks no further than its closing parenthesis. -/
theorem readBody_local {depth : Nat} {quote : Option Char} {cs body rest : List Char}
    (read : readBody depth quote cs = some (body, rest)) (other : List Char) :
    readBody depth quote (body ++ ')' :: other) = some (body, other) := by
  fun_induction readBody depth quote cs generalizing body rest with
  | case1 | case2 | case3 | case4 | case7 => simp at read
  | case5 _ _ _ _ noNewline _ ih =>
      obtain ⟨inner, inside, rfl⟩ := readBefore_eq_some_iff.mp read
      simp [readBody, ih inside, readBefore, noNewline]
  | case6 _ _ _ _ noNewline noEscape ih =>
      obtain ⟨inner, inside, rfl⟩ := readBefore_eq_some_iff.mp read
      rw [List.append_assoc, List.singleton_append, readBody.eq_def]
      simp [ih inside, readBefore, noNewline, noEscape]
  | case8 _ _ _ noNewline isQuote ih =>
      obtain ⟨inner, inside, rfl⟩ := readBefore_eq_some_iff.mp read
      simp [readBody, ih inside, readBefore, noNewline, isQuote]
  | case9 _ _ _ _ ih =>
      obtain ⟨inner, inside, rfl⟩ := readBefore_eq_some_iff.mp read
      simp [readBody, ih inside, readBefore]
  | case10 =>
      obtain ⟨rfl, rfl⟩ := read
      simp [readBody]
  | case11 _ _ _ _ _ ih =>
      obtain ⟨inner, inside, rfl⟩ := readBefore_eq_some_iff.mp read
      simp [readBody, ih inside, readBefore]
  | case12 _ _ _ noNewline noQuote noOpening noClosing ih =>
      obtain ⟨inner, inside, rfl⟩ := readBefore_eq_some_iff.mp read
      simp [readBody, ih inside, readBefore, noNewline, noQuote, noOpening, noClosing]

/-- A body has no newline in it. -/
theorem newline_not_mem_body {depth : Nat} {quote : Option Char} {cs body rest : List Char}
    (read : readBody depth quote cs = some (body, rest)) : '\n' ∉ body := by
  fun_induction readBody depth quote cs generalizing body rest with
  | case1 | case2 | case3 | case4 | case7 => simp at read
  | case5 _ _ _ _ noNewline _ ih | case6 _ _ _ _ noNewline _ ih
  | case8 _ _ _ noNewline _ ih | case12 _ _ _ noNewline _ _ _ ih =>
      obtain ⟨inner, inside, rfl⟩ := readBefore_eq_some_iff.mp read
      simp [ih inside, Ne.symm noNewline]
  | case9 _ _ _ _ ih | case11 _ _ _ _ _ ih =>
      obtain ⟨inner, inside, rfl⟩ := readBefore_eq_some_iff.mp read
      simp [ih inside]
  | case10 =>
      obtain ⟨rfl, rfl⟩ := read
      simp

section Quoted

variable {quote c : Char} {cs : List Char}

/-- Behind a backslash any character but a newline is an escape. -/
theorem readQuoted_escape (noNewline : c ≠ '\n') :
    readQuoted quote ('\\' :: c :: cs) =
      (readQuoted quote cs).map fun read => (.escape c :: read.1, read.2) := by
  rw [readQuoted, if_neg noNewline]

/-- A parenthesis behind a dollar sign opens a reference, if its end is found. -/
theorem readQuoted_reference {body rest : List Char}
    (found : readBody 0 none cs = some (body, rest)) :
    readQuoted quote ('$' :: '(' :: cs) =
      (readQuoted quote rest).map fun read => (.reference body :: read.1, read.2) := by
  rw [readQuoted]
  split
  · simp_all
  · simp_all

/-- Quoted text with a reference that is not closed has no end. -/
theorem readQuoted_unclosed (absent : readBody 0 none cs = none) :
    readQuoted quote ('$' :: '(' :: cs) = none := by
  rw [readQuoted]
  split
  · rfl
  · simp_all

/-- Any other character stands for itself. -/
theorem readQuoted_plain (noEscape : c ≠ '\\') (noReference : c = '$' → cs.head? ≠ some '(')
    (noNewline : c ≠ '\n') (noQuote : c ≠ quote) :
    readQuoted quote (c :: cs) =
      (readQuoted quote cs).map fun read => (.plain c :: read.1, read.2) := by
  rw [readQuoted, if_neg noNewline, if_neg noQuote]
  · simp_all
  · simp_all
  · rintro inner rfl rfl
    exact noReference rfl rfl

/-- Quoted text ends at its own quote mark. -/
theorem readQuoted_end (isQuote : quote = '"' ∨ quote = '\'') :
    readQuoted quote (quote :: cs) = some ([], cs) := by
  rcases isQuote with rfl | rfl <;>
    · rw [readQuoted] <;> simp

/-- Reading quoted text looks no further than its closing quote mark. -/
theorem readQuoted_local (isQuote : quote = '"' ∨ quote = '\'') {rest : List Char}
    {pieces : List Piece} (read : readQuoted quote cs = some (pieces, rest)) (other : List Char) :
    readQuoted quote (pieces.flatMap Piece.written ++ quote :: other) = some (pieces, other) := by
  fun_induction readQuoted quote cs generalizing pieces rest with
  | case1 | case2 | case3 | case5 | case7 => simp at read
  | case4 c _ noNewline ih =>
      obtain ⟨⟨inner, after⟩, inside, same⟩ := Option.map_eq_some_iff.mp read
      cases same
      simp [Piece.written, readQuoted_escape noNewline, ih inside]
  | case6 inner body after found ih =>
      obtain ⟨⟨others, last⟩, inside, same⟩ := Option.map_eq_some_iff.mp read
      cases same
      have again := readBody_local found (others.flatMap Piece.written ++ quote :: other)
      simp [Piece.written, readQuoted_reference again, ih inside]
  | case8 =>
      cases read
      exact readQuoted_end isQuote
  | case9 c after notAlone notEscape notReference noNewline noQuote ih =>
      obtain ⟨⟨others, last⟩, inside, same⟩ := Option.map_eq_some_iff.mp read
      cases same
      have noEscape : c ≠ '\\' := by
        rintro rfl
        cases after with
        | nil => exact notAlone rfl rfl
        | cons d ds => exact notEscape d ds rfl rfl
      -- What follows a dollar sign is the same in both texts, up to the closing quote mark.
      have sameHead : (others.flatMap Piece.written ++ quote :: other).head? = after.head? := by
        rw [readQuoted_eq_some inside, List.head?_append, List.head?_append]
        rfl
      have noReference : c = '$' →
          (others.flatMap Piece.written ++ quote :: other).head? ≠ some '(' := by
        rw [sameHead]
        intro isDollar opens
        obtain ⟨inner, rfl⟩ := List.head?_eq_some_iff.mp opens
        exact notReference inner isDollar rfl
      simp [Piece.written, readQuoted_plain noEscape noReference noNewline noQuote, ih inside]

end Quoted

/-! ## Cutting a line off -/

/-- A token that is read from the front of a text is read in the same way when more text follows,
or else it has gone up to the end. In the second case it is not a closing parenthesis. -/
def Lexed.Grows (short long : Lexed) (more : List Char) : Prop :=
  long.kind = short.kind ∧ long.rest = short.rest ++ more ∨
    short.rest = [] ∧ short.kind ≠ .closeParen

/-- A mark is the same with anything behind it. -/
theorem Lexed.grows_mark (kind : TokenKind) (cs more : List Char) :
    Grows ⟨kind, [], cs⟩ ⟨kind, [], cs ++ more⟩ more :=
  .inl ⟨rfl, rfl⟩

theorem Lexed.grows_ite {condition : Prop} [Decidable condition] {short long short' long' : Lexed}
    {more : List Char} (yes : condition → Grows short long more)
    (no : ¬ condition → Grows short' long' more) :
    Grows (if condition then short else short') (if condition then long else long') more := by
  by_cases holds : condition
  · rw [if_pos holds, if_pos holds]
    exact yes holds
  · rw [if_neg holds, if_neg holds]
    exact no holds

/-- A word or a number is the same with more behind it, unless it reaches the end. -/
theorem Lexed.grows_run {kind : List Char → TokenKind} (other : ∀ cs, kind cs ≠ .closeParen)
    (belongs : Char → Bool) (c : Char) (cs more : List Char) :
    Grows (run kind belongs c cs) (run kind belongs c (cs ++ more)) more := by
  by_cases whole : cs.dropWhile belongs = []
  · exact .inr ⟨whole, other _⟩
  · have shorter : (cs.takeWhile belongs).length ≠ cs.length := by
      intro same
      have lengths :=
        congrArg List.length (List.takeWhile_append_dropWhile (p := belongs) (l := cs))
      rw [List.length_append] at lengths
      exact whole (List.length_eq_zero_iff.mp (by omega))
    refine .inl ⟨?_, ?_⟩
    · simp only [run, List.takeWhile_append, if_neg shorter]
    · rw [run, run, List.dropWhile_append, if_neg (by simpa using whole)]

/-- A mark is the same with more behind it, unless an equals sign could follow. -/
theorem Lexed.grows_withEquals {alone extended : TokenKind} (other : alone ≠ .closeParen)
    (cs more : List Char) :
    Grows (withEquals alone extended cs) (withEquals alone extended (cs ++ more)) more := by
  unfold withEquals
  split
  · exact .inl ⟨rfl, rfl⟩
  · rename_i noEquals
    cases cs with
    | nil => exact .inr ⟨rfl, other⟩
    | cons d ds =>
        refine .inl ?_
        split
        · rename_i starts
          cases starts
          exact absurd rfl (noEquals ds)
        · exact ⟨rfl, rfl⟩

theorem dropWhile_newline {cs : List Char} (oneLine : '\n' ∉ cs) :
    cs.dropWhile (· != '\n') = [] := by
  apply List.dropWhile_eq_nil_iff.mpr
  intro c member
  rw [bne_iff_ne]
  rintro rfl
  exact oneLine member

/-- Quoted text that ends on its line is the same with more behind it. Otherwise it is an unknown
token up to the end of the line. -/
theorem Lexed.grows_quoted {quote : Char} (isQuote : quote = '"' ∨ quote = '\'') {cs : List Char}
    (oneLine : '\n' ∉ cs) (more : List Char) :
    Grows (quoted quote cs) (quoted quote (cs ++ more)) more := by
  unfold quoted
  cases read : readQuoted quote cs with
  | none =>
      refine .inr ⟨?_, by simp [run]⟩
      exact dropWhile_newline oneLine
  | some found =>
      obtain ⟨pieces, rest⟩ := found
      have longer : readQuoted quote (cs ++ more) = some (pieces, rest ++ more) := by
        rw [readQuoted_eq_some read, List.append_assoc, List.cons_append]
        exact readQuoted_local isQuote read _
      rw [longer]
      exact .inl ⟨rfl, rfl⟩

/-- A word is a truth value, the keyword that it spells, or a name. -/
theorem wordKind_cases (word : String) :
    (∃ value, wordKind word = .boolean value) ∨
      (∃ keyword, wordKind word = .keyword keyword ∧ word = keyword.spelling) ∨
        wordKind word = .identifier word := by
  unfold wordKind
  split
  · exact .inl ⟨true, rfl⟩
  · split
    · exact .inl ⟨false, rfl⟩
    · split
      · rename_i keyword found
        have spelled := List.find?_some found
        exact .inr (.inl ⟨keyword, rfl, (beq_iff_eq.mp spelled).symm⟩)
      · exact .inr (.inr rfl)

theorem wordKind_ne_closeParen (word : String) : wordKind word ≠ .closeParen := by
  rcases wordKind_cases word with ⟨_, kind⟩ | ⟨_, kind, -⟩ | kind <;> simp [kind]

theorem wordKind_ne_newline (word : String) : wordKind word ≠ .newline := by
  rcases wordKind_cases word with ⟨_, kind⟩ | ⟨_, kind, -⟩ | kind <;> simp [kind]

/-- A word that is read as a keyword is the spelling of that keyword. -/
theorem wordKind_eq_keyword {word : String} {keyword : Keyword}
    (isKeyword : wordKind word = .keyword keyword) : word = keyword.spelling := by
  rcases wordKind_cases word with ⟨_, kind⟩ | ⟨_, kind, spelled⟩ | kind
  · rw [isKeyword] at kind
    cases kind
  · rw [isKeyword] at kind
    cases kind
    exact spelled
  · rw [isKeyword] at kind
    cases kind

theorem digitsKind_ne_closeParen (digits : List Char) : digitsKind digits ≠ .closeParen := by
  unfold digitsKind
  split <;> simp

/-- Every token that is read on one line is the same when more follows, or it goes on where the line
ended. -/
theorem Lexed.grows_read (c : Char) {cs : List Char} (oneLine : '\n' ∉ cs) (more : List Char) :
    Grows (read c cs) (read c (cs ++ more)) more := by
  unfold read
  refine grows_ite (fun _ => grows_mark ..) fun _ => ?_
  refine grows_ite (fun _ => grows_mark ..) fun _ => ?_
  refine grows_ite (fun _ => grows_mark ..) fun _ => ?_
  refine grows_ite (fun _ => grows_mark ..) fun _ => ?_
  refine grows_ite (fun _ => grows_mark ..) fun _ => ?_
  refine grows_ite (fun _ => grows_mark ..) fun _ => ?_
  refine grows_ite (fun _ => grows_withEquals (by simp) cs more) fun _ => ?_
  refine grows_ite (fun _ => grows_withEquals (by simp) cs more) fun _ => ?_
  refine grows_ite (fun _ => grows_withEquals (by simp) cs more) fun _ => ?_
  refine grows_ite (fun _ => grows_withEquals (by simp) cs more) fun _ => ?_
  refine grows_ite (fun isQuote => grows_quoted isQuote oneLine more) fun _ => ?_
  refine grows_ite (fun _ => grows_run digitsKind_ne_closeParen ..) fun _ => ?_
  refine grows_ite (fun _ => grows_run (fun _ => wordKind_ne_closeParen _) ..) fun _ => ?_
  exact grows_mark ..

/-- The tokens of a text that was cut off: those of the whole text as far as they go, and perhaps
one that the cut has gone through, which is no closing parenthesis. -/
def CutFrom (whole kinds : List TokenKind) : Prop :=
  kinds <+: whole ∨ ∃ front kind, kinds = front ++ [kind] ∧ front <+: whole ∧ kind ≠ .closeParen

theorem CutFrom.cons {whole kinds : List TokenKind} (cut : CutFrom whole kinds)
    (kind : TokenKind) : CutFrom (kind :: whole) (kind :: kinds) := by
  rcases cut with inside | ⟨front, last, rfl, inside, notClosing⟩
  · exact .inl (List.cons_prefix_cons.mpr ⟨rfl, inside⟩)
  · exact .inr ⟨kind :: front, last, rfl, List.cons_prefix_cons.mpr ⟨rfl, inside⟩, notClosing⟩

/-- Cutting a line off leaves its tokens as they are, up to the last one. -/
theorem kindsOf_cut {cs : List Char} (oneLine : '\n' ∉ cs) (more : List Char) :
    CutFrom (kindsOf (cs ++ more)) (kindsOf cs) := by
  induction length : cs.length using Nat.strong_induction_on generalizing cs with
  | _ n ih =>
      subst length
      cases cs with
      | nil =>
          rw [kindsOf_nil]
          exact .inl List.nil_prefix
      | cons c cs =>
          have oneLineRest : '\n' ∉ cs := fun member => oneLine (List.mem_cons_of_mem c member)
          by_cases blank : c ∈ blankChars
          · simp only [blankChars, List.mem_cons, List.not_mem_nil, or_false] at blank
            have shorter := ih cs.length (Nat.lt_succ_self _) oneLineRest rfl
            rcases blank with rfl | rfl | rfl | rfl | rfl
            · rw [kindsOf_comment cs, dropWhile_newline oneLineRest, kindsOf_nil]
              exact .inl List.nil_prefix
            · rwa [List.cons_append, kindsOf_gap rfl, kindsOf_gap rfl]
            · rwa [List.cons_append, kindsOf_gap rfl, kindsOf_gap rfl]
            · rwa [List.cons_append, kindsOf_gap rfl, kindsOf_gap rfl]
            · exact absurd (List.mem_cons_self ..) oneLine
          rw [List.cons_append, kindsOf_token blank, kindsOf_token blank]
          rcases Lexed.grows_read c oneLineRest more with ⟨sameKind, sameRest⟩ | ⟨atEnd, notClosing⟩
          · have oneLineAfter : '\n' ∉ (Lexed.read c cs).rest := by
              intro member
              apply oneLineRest
              rw [← Lexed.tail_append_rest c cs]
              exact List.mem_append_right _ member
            rw [sameKind, sameRest]
            exact (ih _ (Nat.lt_succ_of_le (Lexed.rest_length_le c cs)) oneLineAfter rfl).cons _
          · rw [atEnd, kindsOf_nil]
            exact .inr ⟨[], _, rfl, List.nil_prefix, notClosing⟩

end ChatScript
