import ChatScript.Proofs.Soundness

/-! # What the parser does not refuse

Whatever the grammar derives, the parser accepts, with the tree of the derivation
(`accepted_of_derives`, `programOfTokens_of_forms`). A derivation does not say what follows the
tokens it is about, but the parser looks one token ahead; so each phrase is read off the front of
a longer list whose rest cannot be taken for a continuation of the phrase.
-/

namespace ChatScript

/-- What follows cannot turn the name in front of it into a call. -/
def EndsOperand (rest : List Token) : Prop :=
  ∀ token ∈ rest.head?, token.kind ≠ .openParen

/-- What follows cannot continue the expression in front of it. -/
def EndsExpression (rest : List Token) : Prop :=
  EndsOperand rest ∧ ∀ token ∈ rest.head?, ∀ mark, token.kind ≠ .operator mark

theorem EndsOperand.nil : EndsOperand [] := by
  simp [EndsOperand]

theorem EndsOperand.cons {token : Token} {rest : List Token} (other : token.kind ≠ .openParen) :
    EndsOperand (token :: rest) := by
  simpa [EndsOperand] using other

theorem EndsExpression.nil : EndsExpression [] := by
  simp [EndsExpression, EndsOperand]

theorem EndsExpression.cons {token : Token} {rest : List Token} (other : token.kind ≠ .openParen)
    (unmarked : ∀ mark, token.kind ≠ .operator mark) : EndsExpression (token :: rest) :=
  ⟨.cons other, by simpa using unmarked⟩

/-- The kinds of tokens that an operand can start with. -/
def TokenKind.startsOperand : TokenKind → Bool
  | .literal _ | .number _ | .boolean _ | .identifier _ | .dollar | .openParen
  | .operator .minus => true
  | _ => false

/-- Every phrase starts with a token that an operand can start with. -/
theorem Derives.starts {phrase : Phrase} {kinds : List TokenKind} {size : Nat}
    (derivation : Derives phrase kinds size) :
    ∃ first others, kinds = first :: others ∧ first.startsOperand := by
  induction derivation with
  | sum _ ih | operand _ ih | called _ ih | single _ ih | several _ _ ih | lastArgument _ ih
  | targetCall _ ih => exact ih
  | compare _ _ _ ih _ | join _ _ _ ih _ | argument _ _ ih _ =>
      obtain ⟨first, others, rfl, starts⟩ := ih
      exact ⟨first, _, rfl, starts⟩
  | _ => exact ⟨_, _, rfl, rfl⟩

/-- Every argument takes at least one token. -/
theorem Derives.arguments_length_le {values : List Expr} {kinds : List TokenKind} {size : Nat}
    (derivation : Derives (.arguments values) kinds size) : values.length ≤ kinds.length := by
  generalize same : Phrase.arguments values = phrase at derivation
  induction derivation generalizing values with
  | lastArgument inner =>
      obtain ⟨first, others, rfl, -⟩ := inner.starts
      cases same
      simp
  | argument _ _ _ ih =>
      cases same
      have shorter := ih rfl
      simp only [List.length_cons, List.length_append]
      omega
  | _ => cases same

/-- A call starts with its function and an opening parenthesis. -/
theorem Derives.call_starts {function : String} {arguments : List Expr} {kinds : List TokenKind}
    {size : Nat} (derivation : Derives (.call function arguments) kinds size) :
    ∃ others, kinds = .identifier function :: .openParen :: others := by
  cases derivation with
  | emptyCall => exact ⟨_, rfl⟩
  | call => exact ⟨_, rfl⟩

/-- What it means for the parser to accept a phrase of the given size, where the parser of nested
expressions has as many levels as the size demands. -/
def Accepted : Phrase → List TokenKind → Nat → Prop
  | .expression value, kinds, size => ∀ tokens rest spent levels,
      tokens.map Token.kind = kinds → size ≤ levels → spent + size ≤ maxExpressionSize →
      EndsExpression rest →
      expressionAt (levels + 1) ⟨tokens ++ rest, spent⟩ = .ok (value, ⟨rest, spent + size⟩)
  | .sum value, kinds, size => ∀ tokens rest spent levels,
      tokens.map Token.kind = kinds → size ≤ levels → spent + size ≤ maxExpressionSize →
      EndsOperand rest →
      ∃ bound : List Token, rest.length ≤ bound.length ∧
        sum (expressionAt levels) ⟨tokens ++ rest, spent⟩ =
          sumUpTo (expressionAt levels) bound value ⟨rest, spent + size⟩
  | .operand value, kinds, size => ∀ tokens rest spent levels,
      tokens.map Token.kind = kinds → size ≤ levels → spent + size ≤ maxExpressionSize →
      EndsOperand rest →
      primary (expressionAt levels) ⟨tokens ++ rest, spent⟩ = .ok (value, ⟨rest, spent + size⟩)
  | .call function arguments, kinds, size => ∀ tokens rest spent levels line,
      .identifier function :: .openParen :: tokens.map Token.kind = kinds → size ≤ levels →
      spent + size ≤ maxExpressionSize →
      call (expressionAt levels) function line ⟨tokens ++ rest, spent⟩ =
        .ok (.call function arguments, ⟨rest, spent + size⟩)
  | .arguments values, kinds, size => ∀ tokens rest bound closing spent levels function,
      tokens.map Token.kind = kinds → size ≤ levels → spent + size ≤ maxExpressionSize →
      closing.kind = .closeParen → values.length ≤ bound.length →
      argumentsUpTo (expressionAt (levels + 1)) function bound ⟨tokens ++ closing :: rest, spent⟩ =
        .ok (values, ⟨rest, spent + size⟩)
  | .target value, kinds, size => ∀ tokens rest spent levels,
      tokens.map Token.kind = kinds → size ≤ levels → spent + size ≤ maxExpressionSize →
      EndsOperand rest →
      target (expressionAt levels) ⟨tokens ++ rest, spent⟩ = .ok (value, ⟨rest, spent + size⟩)
  | .parts values, kinds, size => ∀ fragments spent levels line,
      [.literal fragments] = kinds → size ≤ levels → spent + size ≤ maxExpressionSize →
      literalParts (expressionAt levels) line fragments spent = .ok (values, spent + size)

theorem spend_of_lt {line spent : Nat} (room : spent < maxExpressionSize) :
    spend line spent = .ok (spent + 1) :=
  spend_eq_ok_iff.mpr ⟨room, rfl⟩

namespace Cursor

theorem grow_of_lt {line : Nat} {rest : List Token} {spent : Nat}
    (room : spent < maxExpressionSize) :
    grow line ⟨rest, spent⟩ = .ok ⟨rest, spent + 1⟩ :=
  grow_eq_ok_iff.mpr ⟨room, rfl⟩

theorem close_of_kind {setting : Setting} {token : Token} {rest : List Token} {spent : Nat}
    (closes : token.kind = .closeParen) :
    close setting ⟨token :: rest, spent⟩ = .ok ⟨rest, spent⟩ := by
  obtain ⟨kind, lexeme, line⟩ := token
  cases closes
  rfl

end Cursor

theorem AdditiveMark.additiveOp? {mark : Operator} {op : BinaryOp} (isMark : AdditiveMark mark op) :
    ChatScript.additiveOp? (.operator mark) = some op := by
  cases isMark <;> rfl

theorem ComparisonMark.comparisonOp? {mark : Operator} {op : BinaryOp}
    (isMark : ComparisonMark mark op) :
    ChatScript.comparisonOp? (.operator mark) = some op ∧
      ChatScript.additiveOp? (.operator mark) = none := by
  cases isMark <;> exact ⟨rfl, rfl⟩

/-- The loop over operands stops in front of a token that is no additive mark. -/
theorem sumUpTo_of_ends {nested : Parser Expr} {bound rest : List Token} {value : Expr}
    {spent : Nat} (ends : ∀ token ∈ rest.head?, additiveOp? token.kind = none) :
    sumUpTo nested bound value ⟨rest, spent⟩ = .ok (value, ⟨rest, spent⟩) := by
  cases bound with
  | nil => rfl
  | cons _ bound =>
      cases rest with
      | nil => rfl
      | cons token rest => simp [sumUpTo, ends token rfl]

theorem EndsExpression.additiveOp? {rest : List Token} (ends : EndsExpression rest) :
    ∀ token ∈ rest.head?, ChatScript.additiveOp? token.kind = none := by
  intro token first
  cases found : ChatScript.additiveOp? token.kind with
  | none => rfl
  | some op =>
      obtain ⟨mark, kind, -⟩ := additiveOp?_eq_some found
      exact absurd kind (ends.2 token first mark)

theorem EndsExpression.comparisonOp? {rest : List Token} (ends : EndsExpression rest) :
    ∀ token ∈ rest.head?, ChatScript.comparisonOp? token.kind = none := by
  intro token first
  cases found : ChatScript.comparisonOp? token.kind with
  | none => rfl
  | some op =>
      obtain ⟨mark, kind, -⟩ := comparisonOp?_eq_some found
      exact absurd kind (ends.2 token first mark)

/-- An expression of which nothing but a sum was derived is read as that sum. -/
theorem Accepted.sum {value : Expr} {kinds : List TokenKind} {size : Nat}
    (inner : Accepted (.sum value) kinds size) : Accepted (.expression value) kinds size := by
  intro tokens rest spent levels same deep room ends
  obtain ⟨bound, -, read⟩ := inner tokens rest spent levels same deep room ends.1
  simp only [expressionAt, comparison, read, sumUpTo_of_ends ends.additiveOp?, ok_bind]
  cases rest with
  | nil => rfl
  | cons token rest => simp only [ends.comparisonOp? token rfl]

/-- A comparison spends what the two sums spend and one more. -/
theorem Accepted.compare {mark : Operator} {op : BinaryOp} {left right : Expr}
    {lefts rights : List TokenKind} {m n : Nat} (isMark : ComparisonMark mark op)
    (first : Accepted (.sum left) lefts m) (second : Accepted (.sum right) rights n) :
    Accepted (.expression (.binary op left right)) (lefts ++ .operator mark :: rights)
      (m + n + 1) := by
  intro tokens rest spent levels same deep room ends
  obtain ⟨front, others, rfl, sameLeft, sameOthers⟩ := List.map_eq_append_iff.mp same
  obtain ⟨token, back, rfl, kind, sameRight⟩ := List.map_eq_cons_iff.mp sameOthers
  obtain ⟨isOp, notJoin⟩ := isMark.comparisonOp?
  obtain ⟨bound, -, readLeft⟩ := first front (token :: (back ++ rest)) spent levels sameLeft
    (by omega) (by omega) (.cons (by simp [kind]))
  obtain ⟨bound', -, readRight⟩ := second back rest (spent + m + 1) levels sameRight
    (by omega) (by omega) ends.1
  have stops : ∀ next ∈ (token :: (back ++ rest)).head?, additiveOp? next.kind = none := by
    simp [kind, notJoin]
  simp only [List.append_assoc, List.cons_append, expressionAt, comparison, readLeft,
    sumUpTo_of_ends stops, ok_bind, kind, isOp]
  rw [Cursor.grow_of_lt (by omega)]
  simp only [ok_bind, readRight, sumUpTo_of_ends ends.additiveOp?]
  congr 3
  omega

theorem Accepted.operand {value : Expr} {kinds : List TokenKind} {size : Nat}
    (inner : Accepted (.operand value) kinds size) : Accepted (.sum value) kinds size := by
  intro tokens rest spent levels same deep room ends
  refine ⟨rest, Nat.le_refl _, ?_⟩
  simp only [ChatScript.sum, inner tokens rest spent levels same deep room ends, ok_bind]

/-- The loop goes on over the mark and the operand behind it, with one token less in its bound. -/
theorem Accepted.join {mark : Operator} {op : BinaryOp} {left right : Expr}
    {lefts rights : List TokenKind} {m n : Nat} (isMark : AdditiveMark mark op)
    (first : Accepted (.sum left) lefts m) (second : Accepted (.operand right) rights n) :
    Accepted (.sum (.binary op left right)) (lefts ++ .operator mark :: rights) (m + n + 1) := by
  intro tokens rest spent levels same deep room ends
  obtain ⟨front, others, rfl, sameLeft, sameOthers⟩ := List.map_eq_append_iff.mp same
  obtain ⟨token, back, rfl, kind, sameRight⟩ := List.map_eq_cons_iff.mp sameOthers
  obtain ⟨bound, enough, readLeft⟩ := first front (token :: (back ++ rest)) spent levels sameLeft
    (by omega) (by omega) (.cons (by simp [kind]))
  have readRight := second back rest (spent + m + 1) levels sameRight (by omega) (by omega) ends
  cases bound with
  | nil => simp at enough
  | cons _ bound =>
      refine ⟨bound, ?_, ?_⟩
      · simp only [List.length_cons, List.length_append] at enough
        omega
      · simp only [List.append_assoc, List.cons_append, readLeft, sumUpTo, kind,
          isMark.additiveOp?]
        rw [Cursor.grow_of_lt (by omega)]
        simp only [ok_bind, readRight]
        congr 2
        omega

/-- A name in front of a parenthesis is taken for a call, which spends what the call spends. -/
theorem Accepted.called {function : String} {arguments : List Expr} {kinds : List TokenKind}
    {size : Nat} (derivation : Derives (.call function arguments) kinds size)
    (inner : Accepted (.call function arguments) kinds size) :
    Accepted (.operand (.call function arguments)) kinds size := by
  intro tokens rest spent levels same deep room ends
  obtain ⟨others, rfl⟩ := derivation.call_starts
  obtain ⟨⟨nameKind, _, _⟩, behind, rfl, nameIs, sameBehind⟩ := List.map_eq_cons_iff.mp same
  obtain ⟨⟨parenKind, _, _⟩, back, rfl, parenIs, sameBack⟩ := List.map_eq_cons_iff.mp sameBehind
  cases nameIs
  cases parenIs
  subst sameBack
  exact inner back rest spent levels _ rfl deep room

/-- Tokens of kinds that end in a closing parenthesis end in a token for it. -/
theorem exists_closing {tokens : List Token} {kinds : List TokenKind}
    (same : tokens.map Token.kind = kinds ++ [.closeParen]) :
    ∃ front closing, tokens = front ++ [closing] ∧ front.map Token.kind = kinds ∧
      closing.kind = .closeParen := by
  obtain ⟨front, last, rfl, sameFront, sameLast⟩ := List.map_eq_append_iff.mp same
  obtain ⟨closing, none, rfl, closes, sameNone⟩ := List.map_eq_cons_iff.mp sameLast
  obtain rfl := List.map_eq_nil_iff.mp sameNone
  exact ⟨front, closing, rfl, sameFront, closes⟩

/-- A reference spends one for itself. -/
theorem Accepted.referred {value : Expr} {kinds : List TokenKind} {size : Nat}
    (inner : Accepted (.target value) kinds size) :
    Accepted (.operand value) (.dollar :: .openParen :: kinds ++ [.closeParen]) (size + 1) := by
  intro tokens rest spent levels same deep room ends
  obtain ⟨dollar, behind, rfl, isDollar, sameBehind⟩ := List.map_eq_cons_iff.mp same
  obtain ⟨⟨parenKind, _, _⟩, between, rfl, parenIs, sameBetween⟩ :=
    List.map_eq_cons_iff.mp sameBehind
  obtain ⟨front, closing, rfl, sameFront, closes⟩ := exists_closing sameBetween
  cases parenIs
  have read := inner front (closing :: rest) (spent + 1) levels sameFront (by omega) (by omega)
    (.cons (by simp [closes]))
  simp only [List.cons_append, List.append_assoc, List.nil_append, primary, isDollar]
  rw [Cursor.grow_of_lt (by omega)]
  simp only [ok_bind, read, Cursor.close_of_kind closes]
  congr 3
  omega

/-- A group spends one for itself. -/
theorem Accepted.group {value : Expr} {kinds : List TokenKind} {size : Nat}
    (inner : Accepted (.expression value) kinds size) :
    Accepted (.operand value) (.openParen :: kinds ++ [.closeParen]) (size + 1) := by
  intro tokens rest spent levels same deep room ends
  obtain ⟨opening, between, rfl, opens, sameBetween⟩ := List.map_eq_cons_iff.mp same
  obtain ⟨front, closing, rfl, sameFront, closes⟩ := exists_closing sameBetween
  -- The group itself pays for the level that the nested expression needs.
  obtain ⟨levels, rfl⟩ : ∃ fewer, levels = fewer + 1 := ⟨levels - 1, by omega⟩
  have read := inner front (closing :: rest) (spent + 1) levels sameFront (by omega) (by omega)
    (.cons (by simp [closes]) (by simp [closes]))
  simp only [List.cons_append, List.append_assoc, List.nil_append, primary, opens]
  rw [Cursor.grow_of_lt (by omega)]
  simp only [ok_bind, read, Cursor.close_of_kind closes]
  congr 3
  omega

/-- A literal with references is the expression that joins its parts. -/
theorem Accepted.joinParts {values : List Expr} {fragments : List Fragment} {size : Nat}
    (inner : Accepted (.parts values) [.literal fragments] size) :
    Accepted (.operand (joinParts values)) [.literal fragments] size := by
  intro tokens rest spent levels same deep room ends
  obtain ⟨token, none, rfl, kind, sameNone⟩ := List.map_eq_cons_iff.mp same
  obtain rfl := List.map_eq_nil_iff.mp sameNone
  simp only [List.cons_append, List.nil_append, primary, kind,
    inner fragments spent levels token.line rfl deep room, ok_bind]

/-- A phrase of one token is accepted if the parser reads it off any front. -/
theorem Accepted.ofToken {value : Expr} {kind : TokenKind}
    (read : ∀ nested token rest spent, token.kind = kind → EndsOperand rest →
      primary nested ⟨token :: rest, spent⟩ = .ok (value, ⟨rest, spent⟩)) :
    Accepted (.operand value) [kind] 0 := by
  intro tokens rest spent levels same deep room ends
  obtain ⟨token, none, rfl, isKind, sameNone⟩ := List.map_eq_cons_iff.mp same
  obtain rfl := List.map_eq_nil_iff.mp sameNone
  exact read _ token rest spent isKind ends

/-- A name without a parenthesis behind it stands for itself. -/
theorem primary_named {nested : Parser Expr} {name : String} {token : Token} {rest : List Token}
    {spent : Nat} (kind : token.kind = .identifier name) (ends : EndsOperand rest) :
    primary nested ⟨token :: rest, spent⟩ = .ok (.named name, ⟨rest, spent⟩) := by
  simp only [primary, kind]
  split
  · exact absurd rfl (ends _ rfl)
  · rfl

/-- A minus sign in front of a number belongs to the number. -/
theorem Accepted.negative (number : Nat) :
    Accepted (.operand (.literal (.number (-number)))) [.operator .minus, .number number] 0 := by
  intro tokens rest spent levels same deep room ends
  obtain ⟨sign, behind, rfl, signIs, sameBehind⟩ := List.map_eq_cons_iff.mp same
  obtain ⟨⟨kind, _, _⟩, none, rfl, kindIs, sameNone⟩ := List.map_eq_cons_iff.mp sameBehind
  obtain rfl := List.map_eq_nil_iff.mp sameNone
  cases kindIs
  simp only [List.cons_append, List.nil_append, primary, signIs, Nat.add_zero]

theorem Accepted.emptyCall (function : String) :
    Accepted (.call function []) [.identifier function, .openParen, .closeParen] 1 := by
  intro tokens rest spent levels line same deep room
  simp only [List.cons.injEq, true_and] at same
  obtain ⟨⟨kind, _, _⟩, none, rfl, closes, sameNone⟩ := List.map_eq_cons_iff.mp same
  obtain rfl := List.map_eq_nil_iff.mp sameNone
  cases closes
  simp only [List.cons_append, List.nil_append, ChatScript.call]
  rw [Cursor.grow_of_lt (by omega)]
  rfl

/-- A call spends one for itself and what its arguments spend. -/
theorem Accepted.call {function : String} {arguments : List Expr} {kinds : List TokenKind}
    {size : Nat} (derivation : Derives (.arguments arguments) kinds size)
    (inner : Accepted (.arguments arguments) kinds size) :
    Accepted (.call function arguments)
      (.identifier function :: .openParen :: kinds ++ [.closeParen]) (size + 1) := by
  intro tokens rest spent levels line same deep room
  simp only [List.cons_append, List.cons.injEq, true_and] at same
  obtain ⟨front, closing, rfl, sameFront, closes⟩ := exists_closing same
  obtain ⟨levels, rfl⟩ : ∃ fewer, levels = fewer + 1 := ⟨levels - 1, by omega⟩
  have enough : arguments.length ≤ (front ++ closing :: rest).length := by
    have fewer := derivation.arguments_length_le
    rw [← sameFront, List.length_map] at fewer
    rw [List.length_append]
    omega
  have read := inner front rest (front ++ closing :: rest) closing (spent + 1) levels function
    sameFront (by omega) (by omega) closes enough
  simp only [List.append_assoc, List.cons_append, List.nil_append, ChatScript.call]
  rw [Cursor.grow_of_lt (by omega)]
  simp only [ok_bind]
  split
  · rename_i found
    -- The parser sees a call without arguments only where no argument starts.
    obtain ⟨first, others, startKinds, starts⟩ := derivation.starts
    obtain ⟨token, back, rfl, tokenKind, -⟩ :=
      List.map_eq_cons_iff.mp (sameFront.trans startKinds)
    simp only [List.cons_append, List.cons.injEq] at found
    rw [found.1] at tokenKind
    rw [← tokenKind] at starts
    simp [TokenKind.startsOperand] at starts
  · simp only [read, ok_bind]
    congr 3
    omega

theorem Accepted.lastArgument {value : Expr} {kinds : List TokenKind} {size : Nat}
    (inner : Accepted (.expression value) kinds size) :
    Accepted (.arguments [value]) kinds size := by
  intro tokens rest bound closing spent levels function same deep room closes enough
  have read := inner tokens (closing :: rest) spent levels same deep room
    (.cons (by simp [closes]) (by simp [closes]))
  obtain ⟨kind, _, _⟩ := closing
  cases closes
  cases bound with
  | nil => simp at enough
  | cons _ bound => simp only [argumentsUpTo, read, ok_bind]

/-- What arguments spend adds up. -/
theorem Accepted.argument {value : Expr} {values : List Expr} {kinds others : List TokenKind}
    {m n : Nat} (first : Accepted (.expression value) kinds m)
    (further : Accepted (.arguments values) others n) :
    Accepted (.arguments (value :: values)) (kinds ++ .comma :: others) (m + n) := by
  intro tokens rest bound closing spent levels function same deep room closes enough
  obtain ⟨front, behind, rfl, sameFront, sameBehind⟩ := List.map_eq_append_iff.mp same
  obtain ⟨comma, back, rfl, isComma, sameBack⟩ := List.map_eq_cons_iff.mp sameBehind
  have readFirst := first front (comma :: (back ++ closing :: rest)) spent levels sameFront
    (by omega) (by omega) (.cons (by simp [isComma]) (by simp [isComma]))
  obtain ⟨kind, _, _⟩ := comma
  cases isComma
  cases bound with
  | nil => simp at enough
  | cons _ bound =>
      have readFurther := further back rest bound closing (spent + m) levels function sameBack
        (by omega) (by omega) closes (by simpa using enough)
      simp only [List.append_assoc, List.cons_append, argumentsUpTo, readFirst, ok_bind,
        readFurther]
      congr 3
      omega

theorem Accepted.name (name : String) :
    Accepted (.target (.reference name)) [.identifier name] 0 := by
  intro tokens rest spent levels same deep room ends
  obtain ⟨⟨kind, _, _⟩, none, rfl, kindIs, sameNone⟩ := List.map_eq_cons_iff.mp same
  obtain rfl := List.map_eq_nil_iff.mp sameNone
  cases kindIs
  simp only [List.cons_append, List.nil_append, ChatScript.target]
  split
  · rename_i found
    simp only [List.cons.injEq] at found
    rw [found.2] at ends
    exact absurd rfl (ends _ rfl)
  · rename_i found
    simp only [List.cons.injEq, Token.mk.injEq, TokenKind.identifier.injEq] at found
    obtain ⟨⟨rfl, -, -⟩, rfl⟩ := found
    rfl
  · rename_i found
    simp at found
  · rename_i other _
    exact absurd rfl (other _ _ _ _)

theorem Accepted.position (number : Nat) :
    Accepted (.target (.reference number.repr)) [.number number] 0 := by
  intro tokens rest spent levels same deep room ends
  obtain ⟨⟨kind, _, _⟩, none, rfl, kindIs, sameNone⟩ := List.map_eq_cons_iff.mp same
  obtain rfl := List.map_eq_nil_iff.mp sameNone
  cases kindIs
  rfl

theorem Accepted.targetCall {function : String} {arguments : List Expr} {kinds : List TokenKind}
    {size : Nat} (derivation : Derives (.call function arguments) kinds size)
    (inner : Accepted (.call function arguments) kinds size) :
    Accepted (.target (.call function arguments)) kinds size := by
  intro tokens rest spent levels same deep room ends
  obtain ⟨others, rfl⟩ := derivation.call_starts
  obtain ⟨⟨nameKind, _, _⟩, behind, rfl, nameIs, sameBehind⟩ := List.map_eq_cons_iff.mp same
  obtain ⟨⟨parenKind, _, _⟩, back, rfl, parenIs, sameBack⟩ := List.map_eq_cons_iff.mp sameBehind
  cases nameIs
  cases parenIs
  subst sameBack
  exact inner back rest spent levels _ rfl deep room

/-- The text of a literal is a part that spends nothing. -/
theorem Accepted.textPart (content : String) {values : List Expr} {fragments : List Fragment}
    {size : Nat} (inner : Accepted (.parts values) [.literal fragments] size) :
    Accepted (.parts (.literal (.text content) :: values)) [.literal (.text content :: fragments)]
      size := by
  intro _ spent levels line same deep room
  cases same
  simp only [literalParts, inner fragments spent levels line rfl deep room, ok_bind]

/-- The body of a reference has no other token behind its target. -/
theorem embedded_of_accepted {body : String} {value : Expr} {size : Nat} (spent levels line : Nat)
    (derivation : Derives (.target value) ((tokenize body).map Token.kind) size)
    (inner : Accepted (.target value) ((tokenize body).map Token.kind) size) (deep : size ≤ levels)
    (room : spent + size ≤ maxExpressionSize) :
    embedded (expressionAt levels) line body spent = .ok (value, spent + size) := by
  have kinds : ((tokenize body).map fun token => { token with line }).map Token.kind =
      (tokenize body).map Token.kind := by
    rw [List.map_map]
    rfl
  have read := inner _ [] spent levels kinds deep room .nil
  rw [List.append_nil] at read
  unfold embedded
  split
  · rename_i empty
    obtain ⟨first, others, startKinds, -⟩ := derivation.starts
    rw [empty, startKinds] at kinds
    simp at kinds
  · simp only [read]

/-- The body of a reference is parsed from its own tokens, and the budget goes on. -/
theorem Accepted.referencePart {body : String} {value : Expr} {values : List Expr}
    {fragments : List Fragment} {m n : Nat}
    (derivation : Derives (.target value) ((tokenize body).map Token.kind) m)
    (first : Accepted (.target value) ((tokenize body).map Token.kind) m)
    (further : Accepted (.parts values) [.literal fragments] n) :
    Accepted (.parts (value :: values)) [.literal (.reference body :: fragments)] (m + 1 + n) := by
  intro _ spent levels line same deep room
  cases same
  have readFirst := embedded_of_accepted (spent + 1) levels line derivation first (by omega)
    (by omega)
  have readFurther := further fragments (spent + 1 + m) levels line rfl (by omega) (by omega)
  simp only [literalParts, spend_of_lt (show spent < maxExpressionSize by omega), ok_bind,
    readFirst, readFurther]
  congr 2
  omega

/-- **Completeness for expressions.** The parser accepts every phrase that has a derivation. -/
theorem accepted_of_derives {phrase : Phrase} {kinds : List TokenKind} {size : Nat}
    (derivation : Derives phrase kinds size) : Accepted phrase kinds size := by
  induction derivation with
  | sum _ ih => exact .sum ih
  | compare isMark _ _ first second => exact .compare isMark first second
  | operand _ ih => exact .operand ih
  | join isMark _ _ first second => exact .join isMark first second
  | number value => exact .ofToken fun _ _ _ _ kind _ => by simp only [primary, kind]
  | negative value => exact .negative value
  | boolean value => exact .ofToken fun _ _ _ _ kind _ => by simp only [primary, kind]
  | named name => exact .ofToken fun _ _ _ _ kind ends => primary_named kind ends
  | called inner ih => exact .called inner ih
  | referred _ ih => exact .referred ih
  | group _ ih => exact .group ih
  | single _ ih => exact ih.joinParts
  | @several values _ _ plural _ ih =>
      have joined : joinParts values = .interpolated values := by
        unfold joinParts
        split
        · exact absurd rfl plural
        · rfl
      exact joined ▸ ih.joinParts
  | emptyCall function => exact .emptyCall function
  | call inner ih => exact .call inner ih
  | lastArgument _ ih => exact .lastArgument ih
  | argument _ _ first further => exact .argument first further
  | name name => exact .name name
  | position value => exact .position value
  | targetCall inner ih => exact .targetCall inner ih
  | noPart =>
      intro _ spent levels line same deep room
      cases same
      rfl
  | textPart content _ ih => exact .textPart content ih
  | referencePart inner _ first further => exact .referencePart inner first further

/-- The keywords that statements start with. -/
def Keyword.startsStatement : Keyword → Bool
  | .set | .when | .send => true
  | _ => false

/-- Where a statement ends, its expression ends. -/
theorem endsExpression_of_endsStatement {rest : List Token} (ends : endsStatement rest) :
    EndsExpression rest := by
  cases rest with
  | nil => exact .nil
  | cons token rest =>
      simp only [endsStatement] at ends
      split at ends
      · rename_i kind
        exact .cons (by simp [kind]) (by simp [kind])
      · rename_i kind
        exact .cons (by simp [kind]) (by simp [kind])
      · simp at ends

section Values

variable {tokens : List Token} {value : Expr}

/-- An expression is not empty, and its first token can start an operand. -/
theorem FormsValue.starts (forms : FormsValue tokens value) :
    ∃ first others, tokens = first :: others ∧ first.kind.startsOperand := by
  obtain ⟨size, -, derivation⟩ := forms
  obtain ⟨kind, kinds, same, starts⟩ := derivation.starts
  obtain ⟨first, others, rfl, rfl, -⟩ := List.map_eq_cons_iff.mp same
  exact ⟨first, others, rfl, starts⟩

/-- No statement ends where an expression begins. -/
theorem FormsValue.not_endsStatement (forms : FormsValue tokens value) (rest : List Token) :
    endsStatement (tokens ++ rest) = false := by
  obtain ⟨first, others, rfl, starts⟩ := forms.starts
  simp only [List.cons_append, endsStatement]
  split <;> simp_all [TokenKind.startsOperand]

/-- An expression does not begin with an equals sign that could be skipped. -/
theorem FormsValue.skipAssign_append (forms : FormsValue tokens value) (rest : List Token) :
    skipAssign (tokens ++ rest) = tokens ++ rest := by
  obtain ⟨first, others, rfl, starts⟩ := forms.starts
  simp only [List.cons_append]
  unfold skipAssign
  split
  · rename_i found
    simp only [List.cons.injEq] at found
    rw [found.1] at starts
    simp [TokenKind.startsOperand] at starts
  · rfl

/-- An expression at the end of a statement is read as its value. -/
theorem statementValue_of_forms (forms : FormsValue tokens value) {rest : List Token}
    (ends : EndsExpression rest) :
    statementValue (tokens ++ rest) = .ok (value, rest) := by
  obtain ⟨size, small, derivation⟩ := forms
  have room : 0 + size ≤ maxExpressionSize := by
    rw [Nat.zero_add]
    exact small
  have read := accepted_of_derives derivation tokens rest 0 maxExpressionSize rfl small room ends
  simp only [statementValue, expression, read, ok_bind]

end Values

section Statements

variable {limit levels : Nat} {tokens : List Token}

/-- What it means for the parser to accept the tokens of a statement or of a block, where `levels`
blocks may still be opened. -/
def AcceptedClause (limit levels : Nat) : Clause → List Token → Prop
  | .statement result, tokens => ∃ keyword others word, tokens = keyword :: others ∧
      keyword.kind = .keyword word ∧ word.startsStatement ∧
      ∀ rest, endsStatement rest →
        statement (whenAt limit levels) keyword (others ++ rest) = .ok (result, rest)
  | .block statements, tokens => ∀ stops rest bound, (∀ token, stops token → endsBranch token) →
      (∀ token ∈ rest.head?, stops token) → (tokens ++ rest).length ≤ bound.length →
      endsStatement (tokens ++ rest) ∧
        statementsUpTo (whenAt limit levels) stops bound (tokens ++ rest) = .ok (statements, rest)

/-- A variable may be set without an equals sign. -/
theorem AcceptedClause.set {keyword bound : Token} {name : String} {value : Expr}
    (isSet : keyword.kind = .keyword .set) (isName : bound.kind = .identifier name)
    (forms : FormsValue tokens value) :
    AcceptedClause limit levels (.statement (.set name value keyword.line))
      (keyword :: bound :: tokens) := by
  refine ⟨keyword, bound :: tokens, .set, rfl, isSet, rfl, fun rest ends => ?_⟩
  obtain ⟨kind, _, _⟩ := bound
  cases isName
  simp only [statement, isSet, List.cons_append, setStatement, forms.skipAssign_append,
    forms.not_endsStatement, Bool.false_eq_true, ↓reduceIte,
    statementValue_of_forms forms (endsExpression_of_endsStatement ends), ok_bind]

/-- One equals sign behind the name of a variable is skipped. -/
theorem AcceptedClause.assign {keyword bound mark : Token} {name : String} {value : Expr}
    (isSet : keyword.kind = .keyword .set) (isName : bound.kind = .identifier name)
    (isAssign : mark.kind = .operator .assign) (forms : FormsValue tokens value) :
    AcceptedClause limit levels (.statement (.set name value keyword.line))
      (keyword :: bound :: mark :: tokens) := by
  refine ⟨keyword, bound :: mark :: tokens, .set, rfl, isSet, rfl, fun rest ends => ?_⟩
  obtain ⟨kind, _, _⟩ := bound
  cases isName
  obtain ⟨kind, _, _⟩ := mark
  cases isAssign
  simp only [statement, isSet, List.cons_append, setStatement, skipAssign,
    forms.not_endsStatement, Bool.false_eq_true, ↓reduceIte,
    statementValue_of_forms forms (endsExpression_of_endsStatement ends), ok_bind]

theorem AcceptedClause.send {keyword : Token} {value : Expr}
    (isSend : keyword.kind = .keyword .send) (forms : FormsValue tokens value) :
    AcceptedClause limit levels (.statement (.send value keyword.line)) (keyword :: tokens) := by
  refine ⟨keyword, tokens, .send, rfl, isSend, rfl, fun rest ends => ?_⟩
  simp only [statement, isSend, sendStatement, forms.not_endsStatement, Bool.false_eq_true,
    ↓reduceIte, statementValue_of_forms forms (endsExpression_of_endsStatement ends), ok_bind]

/-- A branch is read up to the keyword that ends it. -/
theorem AcceptedClause.branch {statements : List Statement} {closing : Token}
    (block : AcceptedClause limit levels (.block statements) tokens) (closes : endsBranch closing)
    (rest : List Token) :
    statementsUpTo (whenAt limit levels) endsBranch (tokens ++ closing :: rest)
      (tokens ++ closing :: rest) = .ok (statements, closing :: rest) :=
  (block endsBranch (closing :: rest) _ (fun _ => id) (by simpa using closes) (Nat.le_refl _)).2

/-- A conditional takes one of the levels, and its block may use the others. -/
theorem AcceptedClause.conditional {keyword opening closing : Token} {condition : Expr}
    {thenBranch : List Statement} {thens : List Token} (isWhen : keyword.kind = .keyword .when)
    (forms : FormsValue tokens condition) (isThen : opening.kind = .keyword .then)
    (block : AcceptedClause limit levels (.block thenBranch) thens)
    (isEnd : closing.kind = .keyword .end) :
    AcceptedClause limit (levels + 1)
      (.statement (.conditional condition thenBranch none keyword.line))
      (keyword :: (tokens ++ opening :: (thens ++ [closing]))) := by
  refine ⟨keyword, _, .when, rfl, isWhen, rfl, fun rest ends => ?_⟩
  have ended : EndsExpression (opening :: (thens ++ closing :: rest)) :=
    .cons (by simp [isThen]) (by simp [isThen])
  have value := statementValue_of_forms forms ended
  have branch := block.branch (show endsBranch closing by simp [endsBranch, isEnd]) rest
  obtain ⟨kind, _, _⟩ := opening
  cases isThen
  obtain ⟨kind, _, _⟩ := closing
  cases isEnd
  simp only [List.append_assoc, List.cons_append, List.nil_append, statement, isWhen, whenAt,
    whenStatement, forms.not_endsStatement, Bool.false_eq_true, ↓reduceIte, value, ok_bind, branch]

/-- Both blocks of a conditional may use the levels that are left. -/
theorem AcceptedClause.alternative {keyword opening middle closing : Token} {condition : Expr}
    {thenBranch elseBranch : List Statement} {thens elses : List Token}
    (isWhen : keyword.kind = .keyword .when) (forms : FormsValue tokens condition)
    (isThen : opening.kind = .keyword .then)
    (first : AcceptedClause limit levels (.block thenBranch) thens)
    (isElse : middle.kind = .keyword .else)
    (second : AcceptedClause limit levels (.block elseBranch) elses)
    (isEnd : closing.kind = .keyword .end) :
    AcceptedClause limit (levels + 1)
      (.statement (.conditional condition thenBranch (some elseBranch) keyword.line))
      (keyword :: (tokens ++ opening :: (thens ++ middle :: (elses ++ [closing])))) := by
  refine ⟨keyword, _, .when, rfl, isWhen, rfl, fun rest ends => ?_⟩
  have ended : EndsExpression (opening :: (thens ++ middle :: (elses ++ closing :: rest))) :=
    .cons (by simp [isThen]) (by simp [isThen])
  have value := statementValue_of_forms forms ended
  have thenRead := first.branch (show endsBranch middle by simp [endsBranch, isElse])
    (elses ++ closing :: rest)
  have elseRead := second.branch (show endsBranch closing by simp [endsBranch, isEnd]) rest
  obtain ⟨kind, _, _⟩ := opening
  cases isThen
  obtain ⟨kind, _, _⟩ := middle
  cases isElse
  obtain ⟨kind, _, _⟩ := closing
  cases isEnd
  simp only [List.append_assoc, List.cons_append, List.nil_append, statement, isWhen, whenAt,
    whenStatement, forms.not_endsStatement, Bool.false_eq_true, ↓reduceIte, value, ok_bind,
    thenRead, elseRead]

/-- The token that ends a branch ends the statement in front of it, and is no newline. -/
theorem endsBranch_kind {token : Token} (ends : endsBranch token) :
    ∃ word, token.kind = .keyword word := by
  simp only [endsBranch, Bool.or_eq_true, decide_eq_true_eq] at ends
  rcases ends with isElse | isEnd
  · exact ⟨_, isElse⟩
  · exact ⟨_, isEnd⟩

theorem AcceptedClause.empty : AcceptedClause limit levels (.block []) [] := by
  intro stops rest bound ends stopped enough
  cases rest with
  | nil => cases bound <;> exact ⟨rfl, rfl⟩
  | cons token rest =>
      have stop := stopped token rfl
      obtain ⟨word, kind⟩ := endsBranch_kind (ends token stop)
      refine ⟨by simp [endsStatement, kind], ?_⟩
      cases bound with
      | nil => simp at enough
      | cons _ bound => simp [statementsUpTo, skipNewlines, kind, stop]

/-- Newlines between statements are skipped. -/
theorem AcceptedClause.newline {separator : Token} {statements : List Statement}
    (isNewline : separator.kind = .newline)
    (block : AcceptedClause limit levels (.block statements) tokens) :
    AcceptedClause limit levels (.block statements) (separator :: tokens) := by
  intro stops rest bound ends stopped enough
  refine ⟨by simp [endsStatement, isNewline], ?_⟩
  cases bound with
  | nil => simp at enough
  | cons token bound =>
      have read := (block stops rest (token :: bound) ends stopped
        (by simp only [List.cons_append, List.length_cons] at enough ⊢; omega)).2
      have skips : skipNewlines (separator :: tokens ++ rest) = skipNewlines (tokens ++ rest) := by
        simp [skipNewlines, isNewline]
      rw [statementsUpTo, skips]
      exact read

/-- Where a statement starts, it is read first, and then the statements behind it. -/
theorem statementsUpTo_keyword {whenParser : Nat → BlockParser Statement} {stops : Token → Bool}
    {keyword : Token} {word : Keyword} (kind : keyword.kind = .keyword word)
    (starts : word.startsStatement) (ends : ∀ token, stops token → endsBranch token)
    (spare : Token) (bound rest : List Token) :
    statementsUpTo whenParser stops (spare :: bound) (keyword :: rest) =
      statement whenParser keyword rest >>= fun first =>
        if endsStatement first.2 then
          statementsUpTo whenParser stops bound first.2 >>= fun others =>
            .ok (first.1 :: others.1, others.2)
        else .error (.unexpected .afterStatement first.2) := by
  have goesOn : stops keyword = false := by
    apply Bool.eq_false_iff.mpr
    intro stop
    have closes := ends keyword stop
    simp only [endsBranch, kind, Bool.or_eq_true, decide_eq_true_eq, TokenKind.keyword.injEq]
      at closes
    rcases closes with rfl | rfl <;> simp [Keyword.startsStatement] at starts
  have visible : skipNewlines (keyword :: rest) = keyword :: rest := by
    simp [skipNewlines, kind]
  simp only [statementsUpTo, visible, goesOn, Bool.false_eq_true, ↓reduceIte]

/-- A block goes on behind a statement where the statement ended. -/
theorem AcceptedClause.next {statement : Statement} {statements : List Statement}
    {others : List Token} (first : AcceptedClause limit levels (.statement statement) tokens)
    (block : AcceptedClause limit levels (.block statements) others) :
    AcceptedClause limit levels (.block (statement :: statements)) (tokens ++ others) := by
  intro stops rest bound ends stopped enough
  obtain ⟨keyword, behind, word, rfl, kind, starts, read⟩ := first
  refine ⟨by simp [endsStatement, kind], ?_⟩
  cases bound with
  | nil => simp at enough
  | cons _ bound =>
      obtain ⟨ended, readOthers⟩ := block stops rest bound ends stopped (by
        simp only [List.cons_append, List.length_cons, List.length_append] at enough ⊢
        omega)
      rw [List.cons_append, List.cons_append, List.append_assoc,
        statementsUpTo_keyword kind starts ends, read _ ended]
      simp only [ok_bind, ended, ↓reduceIte, readOthers]

/-- The parser accepts every clause that its tokens make up. -/
theorem acceptedClause_of_forms (limit : Nat) {clause : Clause}
    (forms : Forms levels clause tokens) : AcceptedClause limit levels clause tokens := by
  induction forms with
  | set isSet isName value => exact .set isSet isName value
  | assign isSet isName isAssign value => exact .assign isSet isName isAssign value
  | send isSend value => exact .send isSend value
  | conditional isWhen value isThen _ isEnd ih => exact .conditional isWhen value isThen ih isEnd
  | alternative isWhen value isThen _ isElse _ isEnd first second =>
      exact .alternative isWhen value isThen first isElse second isEnd
  | empty => exact .empty
  | newline isNewline _ ih => exact .newline isNewline ih
  | next _ _ first block => exact .next first block

end Statements

/-- A block stays what it is without the newlines at its front. -/
theorem Forms.block_skipNewlines {levels : Nat} {statements : List Statement}
    {tokens : List Token} (forms : Forms levels (.block statements) tokens) :
    Forms levels (.block statements) (skipNewlines tokens) := by
  generalize same : Clause.block statements = clause at forms
  induction forms with
  | newline isNewline _ ih => simpa [skipNewlines, isNewline] using ih same
  | @next _ _ _ _ others first block =>
      cases same
      obtain ⟨keyword, behind, word, rfl, kind, -, -⟩ := acceptedClause_of_forms 0 first
      have visible : skipNewlines (keyword :: behind ++ others) = keyword :: behind ++ others := by
        simp [skipNewlines, kind]
      rw [visible]
      exact .next first block
  | empty =>
      cases same
      exact .empty
  | _ => cases same

/-- **Completeness.** The parser accepts the program that the tokens make up. -/
theorem programOfTokens_of_forms {limit : Nat} {tokens : List Token} {program : Program}
    (forms : FormsProgram limit tokens program) : programOfTokens limit tokens = .ok program := by
  obtain ⟨some, block⟩ := forms
  obtain ⟨-, read⟩ := acceptedClause_of_forms limit block.block_skipNewlines (fun _ => false) []
    (skipNewlines tokens) (by simp) (by simp) (by simp)
  rw [List.append_nil] at read
  unfold programOfTokens
  split
  · rename_i empty
    rw [empty] at read
    simp only [statementsUpTo, Except.ok.injEq, Prod.mk.injEq] at read
    exact absurd read.1.symm some
  · simp only [read, ok_bind]

namespace Program

theorem parse_eq_ok_iff {limit : Nat} {source : String} {program : Program} :
    parse limit source = .ok program ↔ programOfTokens limit (tokenize source) = .ok program := by
  simp only [parse]
  split
  · rename_i found
    simp [found]
  · rename_i found
    simp [found]

/-- A script is accepted as a program if its tokens form that program. -/
theorem parse_eq_ok_iff_forms {limit : Nat} {source : String} {program : Program} :
    parse limit source = .ok program ↔ FormsProgram limit (tokenize source) program :=
  parse_eq_ok_iff.trans ⟨forms_of_programOfTokens, programOfTokens_of_forms⟩

/-- **The parser is exact.** It returns a program exactly when the grammar makes that program out
of the tokens of the source, with no more blocks open at once than the limit and no expression
over its budget; and the grammar makes no second program out of them. -/
theorem parse_exact (limit : Nat) (source : String) :
    (∀ program, parse limit source = .ok program ↔
      FormsProgram limit (tokenize source) program) ∧
    ∀ first second, FormsProgram limit (tokenize source) first →
      FormsProgram limit (tokenize source) second → first = second := by
  refine ⟨fun program => parse_eq_ok_iff_forms, fun first second isFirst isSecond => ?_⟩
  have parsed := parse_eq_ok_iff_forms.mpr isFirst
  have again := parse_eq_ok_iff_forms.mpr isSecond
  rw [parsed, Except.ok.injEq] at again
  exact again

theorem parse_exact_send :
    FormsProgram 0 (tokenize "send 1") ⟨[.send (.literal (.number 1)) 1]⟩ ∧
      ∀ other, FormsProgram 0 (tokenize "send 1") other →
        other = ⟨[.send (.literal (.number 1)) 1]⟩ := by
  have forms := ((parse_exact 0 "send 1").1 ⟨[.send (.literal (.number 1)) 1]⟩).mp
    (by with_unfolding_all rfl)
  exact ⟨forms, fun other isOther => (parse_exact 0 "send 1").2 other _ isOther forms⟩

end Program

end ChatScript
