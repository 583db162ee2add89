import ChatScript.Token

/-!
# Pieces of quoted text and templates

Inside quotes, and in templates, text is read piece by piece: a plain character, a backslash with
the character it escapes, or a whole `$(...)` reference. Pieces lose nothing of what was written;
fragments are what the pieces stand for, with neighbouring text joined.
-/

namespace ChatScript

/-- Puts `cs` in front of what was read. -/
def readBefore {α : Type} (cs : List Char) :
    Option (List Char × α) → Option (List Char × α) :=
  Option.map fun read => (cs ++ read.1, read.2)

/-- Reads the body of a reference, from behind its `$(` up to the matching `)`, and returns the
body and what follows the parenthesis. `depth` counts the parentheses open inside the body and
`quote` is the quote mark it is inside of, if any; parentheses inside quotes do not count. There
is no body when the line or the text ends first. -/
def readBody (depth : Nat) : (quote : Option Char) → List Char → Option (List Char × List Char)
  | _, [] => none
  | some q, c :: cs =>
    if c = '\n' then none
    else if c = '\\' then
      match cs with
      | [] => none
      | escaped :: rest =>
        if escaped = '\n' then none
        else readBefore [c, escaped] (readBody depth (some q) rest)
    else readBefore [c] (readBody depth (if c = q then none else some q) cs)
  | none, c :: cs =>
    if c = '\n' then none
    else if c = '"' ∨ c = '\'' then readBefore [c] (readBody depth (some c) cs)
    else if c = '(' then readBefore [c] (readBody (depth + 1) none cs)
    else if c = ')' then
      match depth with
      | 0 => some ([], cs)
      | outer + 1 => readBefore [c] (readBody outer none cs)
    else readBefore [c] (readBody depth none cs)

theorem readBefore_eq_some_iff {α : Type} {cs body : List Char} {rest : α}
    {read : Option (List Char × α)} :
    readBefore cs read = some (body, rest) ↔
      ∃ inner, read = some (inner, rest) ∧ body = cs ++ inner := by
  cases read with
  | none => simp [readBefore]
  | some pair =>
    obtain ⟨inner, after⟩ := pair
    simp only [readBefore, Option.map_some, Option.some.injEq, Prod.mk.injEq]
    grind

/-- What is read is the body, the closing parenthesis and the rest. -/
theorem readBody_eq_some {depth : Nat} {quote : Option Char} {cs body rest : List Char}
    (read : readBody depth quote cs = some (body, rest)) : cs = body ++ ')' :: rest := by
  fun_induction readBody depth quote cs generalizing body rest <;>
    grind [readBefore_eq_some_iff]

/-- Reading a body takes at least its closing parenthesis. -/
theorem readBody_length_lt {depth : Nat} {quote : Option Char} {cs body rest : List Char}
    (read : readBody depth quote cs = some (body, rest)) : rest.length < cs.length := by
  simp [readBody_eq_some read]
  omega

/-- A piece of quoted text. -/
inductive Piece where
  /-- A character that stands for itself. -/
  | plain (c : Char)
  /-- A backslash and the character after it. -/
  | escape (c : Char)
  /-- A reference with the given body. -/
  | reference (body : List Char)
  deriving DecidableEq, Repr

namespace Piece

/-- The characters a piece is written with. -/
def written : Piece → List Char
  | plain c => [c]
  | escape c => ['\\', c]
  | reference body => '$' :: '(' :: body ++ [')']

/-- The text that an escaped character stands for: a newline, a tab or the character itself, where
an escape without a meaning keeps its backslash. -/
def escaped (c : Char) : List Char :=
  if c = 'n' then ['\n']
  else if c = 't' then ['\t']
  else if c = '\\' ∨ c = '"' ∨ c = '\'' ∨ c = '$' then [c]
  else ['\\', c]

end Piece

/-- A stretch of pieces: the text that neighbouring pieces stand for, or the body of a reference. -/
inductive Span where
  | text (content : List Char)
  | reference (body : List Char)
  deriving DecidableEq, Repr

namespace Span

/-- Puts text in front of spans, joining it with the text that they start with. -/
def prepend (cs : List Char) : List Span → List Span
  | text content :: others => text (cs ++ content) :: others
  | spans => text cs :: spans

/-- The spans of pieces: one per reference, and one per stretch of text. -/
def ofPieces : List Piece → List Span
  | [] => []
  | .plain c :: pieces => prepend [c] (ofPieces pieces)
  | .escape c :: pieces => prepend (Piece.escaped c) (ofPieces pieces)
  | .reference body :: pieces => reference body :: ofPieces pieces

/-- The fragment that a span is. -/
def toFragment : Span → Fragment
  | text content => .text (String.ofList content)
  | reference body => .reference (String.ofList body)

end Span

/-- The fragments that pieces stand for. -/
def Piece.join (pieces : List Piece) : List Fragment :=
  (Span.ofPieces pieces).map Span.toFragment

/-- Reads pieces up to the closing quote mark and returns them with what follows the mark. There
is no closing mark when the line or the text ends first. -/
def readQuoted (quote : Char) (cs : List Char) : Option (List Piece × List Char) :=
  match cs with
  | [] => none
  | '\\' :: [] => none
  | '\\' :: c :: rest =>
    if c = '\n' then none
    else (readQuoted quote rest).map fun read => (.escape c :: read.1, read.2)
  | '$' :: '(' :: inner =>
    match _found : readBody 0 none inner with
    | none => none
    | some (body, rest) =>
      (readQuoted quote rest).map fun read => (.reference body :: read.1, read.2)
  | c :: rest =>
    if c = '\n' then none
    else if c = quote then some ([], rest)
    else (readQuoted quote rest).map fun read => (.plain c :: read.1, read.2)
termination_by cs.length
decreasing_by
  all_goals grind [→ readBody_length_lt]

/-- What is read is the pieces, the quote mark and the rest. -/
theorem readQuoted_eq_some {quote : Char} {cs rest : List Char} {pieces : List Piece}
    (read : readQuoted quote cs = some (pieces, rest)) :
    cs = pieces.flatMap Piece.written ++ quote :: rest := by
  fun_induction readQuoted quote cs generalizing pieces rest with
  | case1 => simp at read
  | case2 => simp at read
  | case3 => simp at read
  | case4 _ _ _ ih =>
    simp only [Option.map_eq_some_iff, Prod.mk.injEq] at read
    obtain ⟨⟨inner, after⟩, inside, rfl, rfl⟩ := read
    simp [ih inside, Piece.written]
  | case5 => simp at read
  | case6 inner body after found ih =>
    simp only [Option.map_eq_some_iff, Prod.mk.injEq] at read
    obtain ⟨⟨others, last⟩, inside, rfl, rfl⟩ := read
    simp [readBody_eq_some found, ih inside, Piece.written]
  | case7 => simp at read
  | case8 => simp_all
  | case9 _ _ _ _ _ _ _ ih =>
    simp only [Option.map_eq_some_iff, Prod.mk.injEq] at read
    obtain ⟨⟨inner, after⟩, inside, rfl, rfl⟩ := read
    simp [ih inside, Piece.written]

/-- Reads a whole text as the pieces of a template: only references whose parenthesis is closed
on their line are pieces of their own, and no character is an escape. -/
def readTemplate (cs : List Char) : List Piece :=
  match cs with
  | [] => []
  | '$' :: '(' :: inner =>
    match _found : readBody 0 none inner with
    | none => .plain '$' :: readTemplate ('(' :: inner)
    | some (body, rest) => .reference body :: readTemplate rest
  | c :: rest => .plain c :: readTemplate rest
termination_by cs.length
decreasing_by
  all_goals grind [→ readBody_length_lt]

/-- The fragments of a string literal. A literal without any text or reference holds one empty
text. -/
def literalFragments (pieces : List Piece) : List Fragment :=
  match Piece.join pieces with
  | [] => [.text ""]
  | fragments => fragments

/-- The fragments of a template. -/
def templateFragments (cs : List Char) : List Fragment :=
  Piece.join (readTemplate cs)

end ChatScript
