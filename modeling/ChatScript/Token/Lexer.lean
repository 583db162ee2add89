import ChatScript.Text.Decimal
import ChatScript.Token.Piece

/-!
# From source text to tokens

Reading never fails: characters that make no sense become tokens of kind `unknown`, and it is left
to the parser to complain about them. A token is taken off the front of the text character by
character, so the token and the rest always make up the text (`Lexed.tail_append_rest`).
-/

namespace ChatScript

/-- A token read off the front of a text: its kind, its characters after the first one, and the
rest of the text. -/
structure Lexed where
  kind : TokenKind
  tail : List Char
  rest : List Char

/-- Whether a word can contain `c` after its first character. -/
def isWordChar (c : Char) : Bool :=
  c.isAlphanum || c == '_'

/-- Whether a word can start with `c`. -/
def isWordStart (c : Char) : Bool :=
  c.isAlpha || c == '_'

/-- The blanks that may stand between tokens. -/
def isGap (c : Char) : Bool :=
  c == ' ' || c == '\t' || c == '\r'

/-- What a word is: a truth value, a keyword or an identifier. -/
def wordKind (word : String) : TokenKind :=
  if word = "true" then .boolean true
  else if word = "false" then .boolean false
  else
    match Keyword.ofSpelling? word with
    | some keyword => .keyword keyword
    | none => .identifier word

/-- What a run of digits is: a number, unless it is too great for a script. -/
def digitsKind (digits : List Char) : TokenKind :=
  match Text.readUpTo? Text.maxNumber.toNat digits with
  | some value => .number value
  | none => .unknown

namespace Lexed

/-- The token that consists of `c` and the characters after it that satisfy `belongs`. -/
def run (kind : List Char → TokenKind) (belongs : Char → Bool) (c : Char) (cs : List Char) :
    Lexed :=
  ⟨kind (c :: cs.takeWhile belongs), cs.takeWhile belongs, cs.dropWhile belongs⟩

/-- A mark by itself, or with an equals sign directly after it. -/
def withEquals (alone extended : TokenKind) : (cs : List Char) → Lexed
  | '=' :: rest => ⟨extended, ['='], rest⟩
  | cs => ⟨alone, [], cs⟩

/-- The string literal behind an opening quote. Without a closing quote on the same line, the rest
of the line is unknown. -/
def quoted (quote : Char) (cs : List Char) : Lexed :=
  match readQuoted quote cs with
  | some (pieces, rest) =>
    ⟨.literal (literalFragments pieces), pieces.flatMap Piece.written ++ [quote], rest⟩
  | none => run (fun _ => .unknown) (· != '\n') quote cs

/-- Reads the token that starts with `c`, which is neither a gap nor a newline nor the start of a
comment. -/
def read (c : Char) (cs : List Char) : Lexed :=
  if c = '(' then ⟨.openParen, [], cs⟩
  else if c = ')' then ⟨.closeParen, [], cs⟩
  else if c = ',' then ⟨.comma, [], cs⟩
  else if c = '$' then ⟨.dollar, [], cs⟩
  else if c = '+' then ⟨.operator .plus, [], cs⟩
  else if c = '-' then ⟨.operator .minus, [], cs⟩
  else if c = '=' then withEquals (.operator .assign) (.operator .equal) cs
  else if c = '!' then withEquals .unknown (.operator .notEqual) cs
  else if c = '<' then withEquals (.operator .less) (.operator .lessEqual) cs
  else if c = '>' then withEquals (.operator .greater) (.operator .greaterEqual) cs
  else if c = '"' ∨ c = '\'' then quoted c cs
  else if c.isDigit then run digitsKind Char.isDigit c cs
  else if isWordStart c then run (fun word => wordKind (String.ofList word)) isWordChar c cs
  else ⟨.unknown, [], cs⟩

@[simp] theorem run_tail_append_rest (kind : List Char → TokenKind) (belongs : Char → Bool)
    (c : Char) (cs : List Char) :
    (run kind belongs c cs).tail ++ (run kind belongs c cs).rest = cs := by
  simp [run]

@[simp] theorem withEquals_tail_append_rest (alone extended : TokenKind) (cs : List Char) :
    (withEquals alone extended cs).tail ++ (withEquals alone extended cs).rest = cs := by
  unfold withEquals
  split <;> simp

@[simp] theorem quoted_tail_append_rest (quote : Char) (cs : List Char) :
    (quoted quote cs).tail ++ (quoted quote cs).rest = cs := by
  unfold quoted
  split
  · rename_i pieces rest found
    simp [readQuoted_eq_some found]
  · exact run_tail_append_rest ..

/-- A token and the rest make up the text that the token was read from. -/
@[simp] theorem tail_append_rest (c : Char) (cs : List Char) :
    (read c cs).tail ++ (read c cs).rest = cs := by
  fun_cases read c cs <;> simp

/-- Reading a token never gives back more than is left. -/
theorem rest_length_le (c : Char) (cs : List Char) : (read c cs).rest.length ≤ cs.length := by
  have whole := congrArg List.length (tail_append_rest c cs)
  rw [List.length_append] at whole
  omega

end Lexed

/-- The tokens of a text that starts on the given line. Gaps and comments, which run from a `#` to
the end of their line, are passed over. -/
def tokensFrom (line : Nat) (cs : List Char) : List Token :=
  match cs with
  | [] => []
  | c :: rest =>
    if c = '#' then tokensFrom line (rest.dropWhile (· != '\n'))
    else if isGap c then tokensFrom line rest
    else if c = '\n' then ⟨.newline, "\n", line⟩ :: tokensFrom (line + 1) rest
    else
      let token := Lexed.read c rest
      ⟨token.kind, String.ofList (c :: token.tail), line⟩ :: tokensFrom line token.rest
termination_by cs.length
decreasing_by
  · have := (List.dropWhile_sublist (fun c => c != '\n') (l := rest)).length_le
    simp only [List.length_cons]
    omega
  · simp
  · simp
  · exact Nat.lt_succ_of_le (Lexed.rest_length_le c rest)

/-- The tokens of a source text. -/
def tokenize (source : String) : List Token :=
  tokensFrom 1 source.toList

end ChatScript
