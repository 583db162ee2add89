import ChatScript.Proofs.Budget

/-! # What tokens stand for

Two things can be read off tokens without knowing how they are derived. Their parentheses match
(`balanced_of_derives`), so that no call is the beginning of a longer one
(`Derives.call_append_eq`). And from left to right they stand for the leaves of the tree: words,
text, and literals with references (`spells_of_derives`). If at some point they do not, they do not
make up the tree at all, however they go on (`Derailed.not_spells`).
-/

namespace ChatScript

/-! ## Parentheses -/

/-- How many more parentheses the tokens open than they close. -/
def surplus : List TokenKind → Int
  | [] => 0
  | .openParen :: kinds => surplus kinds + 1
  | .closeParen :: kinds => surplus kinds - 1
  | _ :: kinds => surplus kinds

@[simp] theorem surplus_append (first second : List TokenKind) :
    surplus (first ++ second) = surplus first + surplus second := by
  induction first with
  | nil => simp [surplus]
  | cons kind kinds ih =>
      cases kind <;> simp only [List.cons_append, surplus, ih] <;> omega

/-- Every parenthesis that is opened is closed, and none is closed before. -/
structure Balanced (kinds : List TokenKind) : Prop where
  total : surplus kinds = 0
  front : ∀ first second, kinds = first ++ second → 0 ≤ surplus first

theorem balanced_nil : Balanced [] where
  total := rfl
  front := by
    intro first second whole
    rw [(List.append_eq_nil_iff.mp whole.symm).1]
    exact Int.le_refl 0

/-- A token that is no parenthesis is balanced on its own. -/
theorem balanced_single {kind : TokenKind} (neutral : surplus [kind] = 0) : Balanced [kind] where
  total := neutral
  front := by
    intro first second whole
    rcases List.append_eq_singleton_iff.mp whole.symm with ⟨rfl, -⟩ | ⟨rfl, -⟩
    · exact Int.le_refl 0
    · exact Int.le_of_eq neutral.symm

/-- Balanced tokens can be put one behind the other. -/
theorem Balanced.append {first second : List TokenKind} (one : Balanced first)
    (other : Balanced second) : Balanced (first ++ second) where
  total := by rw [surplus_append, one.total, other.total, Int.add_zero]
  front := by
    intro front back whole
    rcases List.append_eq_append_iff.mp whole with ⟨middle, rfl, rest⟩ | ⟨middle, rest, -⟩
    · rw [surplus_append, one.total]
      have := other.front middle back rest
      omega
    · exact one.front front middle rest

theorem Balanced.cons {kind : TokenKind} (neutral : surplus [kind] = 0) {kinds : List TokenKind}
    (balanced : Balanced kinds) : Balanced (kind :: kinds) :=
  (balanced_single neutral).append balanced

theorem Balanced.inParens {kinds : List TokenKind} (balanced : Balanced kinds) :
    Balanced (.openParen :: kinds ++ [.closeParen]) where
  total := by simp [surplus, balanced.total]
  front := by
    intro front back whole
    cases front with
    | nil => exact Int.le_refl 0
    | cons kind front =>
        rw [List.cons_append, List.cons_append, List.cons.injEq] at whole
        obtain ⟨rfl, whole⟩ := whole
        rcases List.append_eq_append_iff.mp whole with ⟨middle, rfl, rest⟩ | ⟨middle, rest, -⟩
        · rcases List.append_eq_singleton_iff.mp rest.symm with ⟨rfl, -⟩ | ⟨rfl, -⟩
          · simp [surplus, balanced.total]
          · simp [surplus, balanced.total]
        · have := balanced.front front middle rest
          rw [surplus]
          omega

/-- Whatever is derived closes exactly the parentheses that it opens. -/
theorem balanced_of_derives {phrase : Phrase} {kinds : List TokenKind} {size : Nat}
    (derivation : Derives phrase kinds size) : Balanced kinds := by
  induction derivation with
  | sum _ ih | operand _ ih | called _ ih | lastArgument _ ih | targetCall _ ih => exact ih
  | compare _ _ _ first second | join _ _ _ first second | argument _ _ first second =>
      exact first.append (second.cons rfl)
  | referred _ ih => exact ih.inParens.cons rfl
  | group _ ih => exact ih.inParens
  | call _ ih => exact ih.inParens.cons rfl
  | emptyCall function => exact balanced_nil.inParens.cons rfl
  | negative value => exact (balanced_single rfl).cons rfl
  | _ => exact balanced_single rfl

/-- A call is its name and balanced tokens in parentheses. -/
theorem Derives.call_inside {function : String} {arguments : List Expr} {kinds : List TokenKind}
    {size : Nat} (derivation : Derives (.call function arguments) kinds size) :
    ∃ inside, kinds = .identifier function :: .openParen :: inside ++ [.closeParen] ∧
      Balanced inside := by
  cases derivation with
  | emptyCall => exact ⟨[], rfl, balanced_nil⟩
  | call inner => exact ⟨_, rfl, balanced_of_derives inner⟩

/-- No call is the beginning of a longer one. -/
theorem Derives.call_append_eq {function other : String} {arguments others : List Expr}
    {kinds more : List TokenKind} {size total : Nat}
    (short : Derives (.call function arguments) kinds size)
    (long : Derives (.call other others) (kinds ++ more) total) : more = [] := by
  obtain ⟨inside, rfl, closed⟩ := short.call_inside
  obtain ⟨around, whole, balanced⟩ := long.call_inside
  rcases List.eq_nil_or_concat more with rfl | ⟨front, last, rfl⟩
  · rfl
  · rw [List.concat_eq_append, ← List.append_assoc] at whole
    obtain ⟨same, -⟩ := List.append_inj' whole rfl
    injection same with _ same
    injection same with _ same
    have early := balanced.front (inside ++ [.closeParen]) front same.symm
    simp [surplus, closed.total] at early

/-! ## Leaves -/

mutual

/-- The words and literals of an expression from left to right. A literal with references is
remembered by its parts. -/
def Expr.leaves : Expr → List (Option (List Expr))
  | .literal _ | .named _ | .reference _ => [none]
  | .call _ arguments => none :: leavesOfAll arguments
  | .interpolated parts => [some parts]
  | .binary _ left right => left.leaves ++ right.leaves

/-- The words and literals of several expressions. -/
def leavesOfAll : List Expr → List (Option (List Expr))
  | [] => []
  | expr :: exprs => expr.leaves ++ leavesOfAll exprs

end

/-- Whether a token stands for a word: a name, a number or a truth value. -/
def TokenKind.isWord : TokenKind → Bool
  | .identifier _ | .number _ | .boolean _ => true
  | _ => false

/-- Whether a token stands for no word and no literal. -/
def TokenKind.isMark : TokenKind → Bool
  | .keyword _ | .operator _ | .openParen | .closeParen | .comma | .dollar | .newline => true
  | _ => false

/-- The tokens stand for the leaves, in this order. A literal with a single part stands for the
leaves of that part. -/
inductive Spells : List TokenKind → List (Option (List Expr)) → Prop where
  | nil : Spells [] []
  | mark {kind kinds leaves} : kind.isMark → Spells kinds leaves → Spells (kind :: kinds) leaves
  | word {kind kinds leaves} : kind.isWord → Spells kinds leaves →
      Spells (kind :: kinds) (none :: leaves)
  | single {value fragments size kinds leaves} :
      Derives (.parts [value]) [.literal fragments] size → Spells kinds leaves →
      Spells (.literal fragments :: kinds) (value.leaves ++ leaves)
  | several {values fragments size kinds leaves} : values.length ≠ 1 →
      Derives (.parts values) [.literal fragments] size → Spells kinds leaves →
      Spells (.literal fragments :: kinds) (some values :: leaves)

/-- Tokens that stand for leaves can be put one behind the other. -/
theorem Spells.append {first second : List TokenKind} {leaves others : List (Option (List Expr))}
    (one : Spells first leaves) (other : Spells second others) :
    Spells (first ++ second) (leaves ++ others) := by
  induction one with
  | nil => exact other
  | mark isMark _ ih => exact .mark isMark ih
  | word isWord _ ih => exact .word isWord ih
  | single derivation _ ih =>
      rw [List.append_assoc]
      exact .single derivation ih
  | several plural derivation _ ih => exact .several plural derivation ih

/-- What the tokens of a phrase stand for. -/
def Spelled : Phrase → List TokenKind → Prop
  | .expression value, kinds | .sum value, kinds | .operand value, kinds | .target value, kinds =>
      Spells kinds value.leaves
  | .call _ arguments, kinds => Spells kinds (none :: leavesOfAll arguments)
  | .arguments values, kinds => Spells kinds (leavesOfAll values)
  | .parts _, _ => True

/-- Parentheses stand for nothing. -/
theorem Spells.inParens {kinds : List TokenKind} {leaves : List (Option (List Expr))}
    (spells : Spells kinds leaves) : Spells (.openParen :: kinds ++ [.closeParen]) leaves := by
  have closing : Spells [.closeParen] [] := .mark rfl .nil
  have closed := spells.append closing
  rw [List.append_nil] at closed
  exact .mark rfl closed

/-- The tokens of a derivation stand for the leaves of its trees. -/
theorem spells_of_derives {phrase : Phrase} {kinds : List TokenKind} {size : Nat}
    (derivation : Derives phrase kinds size) : Spelled phrase kinds := by
  induction derivation with
  | sum _ ih | operand _ ih | called _ ih | targetCall _ ih => exact ih
  | compare _ _ _ first second | join _ _ _ first second => exact first.append (.mark rfl second)
  | number | boolean | named | name | position => exact .word rfl .nil
  | negative => exact .mark rfl (.word rfl .nil)
  | referred _ ih => exact .mark rfl ih.inParens
  | group _ ih => exact ih.inParens
  | single derivation _ =>
      have spells := Spells.single derivation .nil
      rwa [List.append_nil] at spells
  | several plural derivation _ => exact .several plural derivation .nil
  | emptyCall => exact .word rfl (.mark rfl (.mark rfl .nil))
  | call _ ih => exact .word rfl (Spells.inParens ih)
  | lastArgument _ ih =>
      rw [Spelled, leavesOfAll, leavesOfAll, List.append_nil]
      exact ih
  | argument _ _ first further => exact first.append (.mark rfl further)
  | noPart | textPart | referencePart => trivial

/-- How many leaves a token stands for, unless it is a literal with a single reference. -/
def TokenKind.weight (kind : TokenKind) : Nat :=
  if kind.isMark then 0 else 1

/-- The tokens can only stand for the given number of leaves. -/
structure Settles (kinds : List TokenKind) (count : Nat) : Prop where
  total : (kinds.map TokenKind.weight).sum = count
  plain : ∀ body, .literal [.reference body] ∉ kinds

theorem settles_nil : Settles [] 0 := ⟨rfl, by simp⟩

/-- The leaves that tokens stand for add up. -/
theorem Settles.append {first second : List TokenKind} {count others : Nat}
    (one : Settles first count) (other : Settles second others) :
    Settles (first ++ second) (count + others) where
  total := by rw [List.map_append, List.sum_append, one.total, other.total]
  plain body := by
    rw [List.mem_append]
    exact not_or.mpr ⟨one.plain body, other.plain body⟩

theorem Settles.mark {kind : TokenKind} (isMark : kind.isMark) {kinds : List TokenKind}
    {count : Nat} (settles : Settles kinds count) : Settles (kind :: kinds) count where
  total := by rw [List.map_cons, List.sum_cons, TokenKind.weight, if_pos isMark, settles.total,
    Nat.zero_add]
  plain body := by
    rw [List.mem_cons]
    refine not_or.mpr ⟨?_, settles.plain body⟩
    rintro rfl
    simp [TokenKind.isMark] at isMark

/-- Any other token stands for one leaf, unless it is a literal with a single reference. -/
theorem Settles.leaf {kind : TokenKind} (noMark : kind.isMark = false)
    (plain : ∀ body, kind ≠ .literal [.reference body]) {kinds : List TokenKind} {count : Nat}
    (settles : Settles kinds count) : Settles (kind :: kinds) (count + 1) where
  total := by rw [List.map_cons, List.sum_cons, TokenKind.weight, if_neg (by simp [noMark]),
    settles.total, Nat.add_comm]
  plain body := by
    rw [List.mem_cons]
    exact not_or.mpr ⟨(plain body).symm, settles.plain body⟩

theorem Settles.close {kinds : List TokenKind} {count : Nat} (settles : Settles kinds count) :
    Settles (kinds ++ [.closeParen]) count :=
  settles.append (settles_nil.mark rfl)

/-- The front of tokens stands for no more leaves than all of them do. -/
theorem Settles.of_append {first second : List TokenKind} {count : Nat}
    (settles : Settles (first ++ second) count) : ∃ less ≤ count, Settles first less := by
  refine ⟨(first.map TokenKind.weight).sum, ?_, rfl, ?_⟩
  · rw [← settles.total, List.map_append, List.sum_append]
    omega
  · intro body member
    exact settles.plain body (List.mem_append_left _ member)

/-- The one part of a literal is text, or the literal is nothing but a reference. -/
theorem Derives.single_part {value : Expr} {fragments : List Fragment} {size : Nat}
    (derivation : Derives (.parts [value]) [.literal fragments] size) :
    (∃ others, value.leaves = none :: others) ∧
      ((∀ body, fragments ≠ [.reference body]) → value.leaves = [none]) := by
  cases derivation with
  | textPart content _ => exact ⟨⟨[], rfl⟩, fun _ => rfl⟩
  | referencePart inner others =>
      refine ⟨?_, fun plain => ?_⟩
      · rcases inner.target_eq with ⟨name, rfl⟩ | ⟨function, arguments, rfl⟩
        · exact ⟨[], rfl⟩
        · exact ⟨leavesOfAll arguments, rfl⟩
      · cases others
        exact absurd rfl (plain _)

/-- Settled tokens use up their number of leaves. -/
theorem Spells.split {front kinds : List TokenKind} {leaves : List (Option (List Expr))}
    {count : Nat} (spells : Spells (front ++ kinds) leaves) (settles : Settles front count) :
    ∃ before after, leaves = before ++ after ∧ before.length = count ∧ Spells kinds after := by
  obtain ⟨total, plain⟩ := settles
  induction front generalizing leaves count with
  | nil => exact ⟨[], leaves, rfl, total, spells⟩
  | cons kind front ih =>
      rw [List.map_cons, List.sum_cons, TokenKind.weight] at total
      have plainRest : ∀ body, .literal [.reference body] ∉ front :=
        fun body member => plain body (List.mem_cons_of_mem _ member)
      -- A token that is no mark uses up one leaf, whichever it is.
      have step : kind.isMark = false → ∀ leaf others, Spells (front ++ kinds) others →
          ∃ before after, leaf :: others = before ++ after ∧ before.length = count ∧
            Spells kinds after := by
        intro noMark leaf others rest
        obtain ⟨before, after, rfl, length, spells⟩ := ih rest rfl plainRest
        rw [noMark, if_neg (by decide)] at total
        exact ⟨leaf :: before, after, rfl, by rw [List.length_cons]; omega, spells⟩
      rw [List.cons_append] at spells
      cases spells with
      | mark isMark others =>
          rw [if_pos isMark, Nat.zero_add] at total
          exact ih others total plainRest
      | word isWord others =>
          refine step ?_ none _ others
          cases kind <;> simp_all [TokenKind.isMark, TokenKind.isWord]
      | single derivation others =>
          rw [derivation.single_part.2 fun body same => plain body (by simp [same])]
          exact step rfl none _ others
      | several plural derivation others => exact step rfl _ _ others

/-- A token that stands for a literal with references is made of its parts. -/
theorem Spells.first_parts {kind : TokenKind} {kinds : List TokenKind} {parts : List Expr}
    {leaves : List (Option (List Expr))} (spells : Spells (kind :: kinds) (some parts :: leaves))
    (noMark : kind.isMark = false) (noWord : kind.isWord = false) :
    ∃ size, Derives (.parts parts) [kind] size := by
  generalize whole : some parts :: leaves = all at spells
  cases spells with
  | mark isMark => simp [noMark] at isMark
  | word isWord => simp [noWord] at isWord
  | single derivation =>
      obtain ⟨⟨others, same⟩, -⟩ := derivation.single_part
      simp [same] at whole
  | several plural derivation =>
      cases whole
      exact ⟨_, derivation⟩

/-- At some point the tokens do not stand for the leaves: the next token, where a literal with
references has to stand, is not made of its parts. -/
inductive Derailed : List TokenKind → List (Option (List Expr)) → Prop where
  | here {kind kinds parts leaves} : kind.isMark = false → kind.isWord = false →
      (∀ size, ¬ Derives (.parts parts) [kind] size) →
      Derailed (kind :: kinds) (some parts :: leaves)
  | later {front kinds before leaves} : Settles front before.length → Derailed kinds leaves →
      Derailed (front ++ kinds) (before ++ leaves)

theorem Derailed.append {kinds : List TokenKind} {leaves : List (Option (List Expr))}
    (derailed : Derailed kinds leaves) (more : List (Option (List Expr))) :
    Derailed kinds (leaves ++ more) := by
  induction derailed with
  | here noMark noWord other => exact .here noMark noWord other
  | later settles _ ih =>
      rw [List.append_assoc]
      exact .later settles ih

theorem Derailed.mark {kind : TokenKind} (isMark : kind.isMark) {kinds : List TokenKind}
    {leaves : List (Option (List Expr))} (derailed : Derailed kinds leaves) :
    Derailed (kind :: kinds) leaves :=
  @Derailed.later [kind] kinds [] leaves (settles_nil.mark isMark) derailed

theorem Derailed.name {kinds : List TokenKind} {leaves : List (Option (List Expr))}
    (derailed : Derailed kinds leaves) (name : String) :
    Derailed (.identifier name :: kinds) (none :: leaves) :=
  @Derailed.later [.identifier name] kinds [none] leaves (settles_nil.leaf rfl (by simp)) derailed

/-- Tokens can only be derailed where a leaf is still to come. -/
theorem Derailed.leaves_ne_nil {kinds : List TokenKind} {leaves : List (Option (List Expr))}
    (derailed : Derailed kinds leaves) : leaves ≠ [] := by
  induction derailed with
  | here => simp
  | later _ _ ih => simp [ih]

/-- Not even the front of derailed tokens stands for the leaves. -/
theorem Derailed.not_spells {kinds : List TokenKind} {leaves : List (Option (List Expr))}
    (derailed : Derailed kinds leaves) :
    ∀ front, front <+: kinds → ¬ Spells front leaves := by
  induction derailed with
  | @here kind kinds parts leaves noMark noWord other =>
      intro front inside spells
      cases front with
      | nil => cases spells
      | cons first front =>
          obtain ⟨rfl, -⟩ := List.cons_prefix_cons.mp inside
          obtain ⟨size, derivation⟩ := spells.first_parts noMark noWord
          exact other size derivation
  | @later early kinds before leaves settles derailed ih =>
      intro front ⟨rest, whole⟩ spells
      rcases List.append_eq_append_iff.mp whole with ⟨middle, rfl, -⟩ | ⟨middle, rfl, inside⟩
      · obtain ⟨less, fewer, settled⟩ := settles.of_append
        rw [← List.append_nil front] at spells
        obtain ⟨used, unused, same, length, nothing⟩ := spells.split settled
        cases nothing
        have lengths := congrArg List.length same
        have some := List.length_pos_iff.mpr derailed.leaves_ne_nil
        simp only [List.length_append, List.length_nil] at lengths
        omega
      · obtain ⟨used, others, same, length, further⟩ := spells.split settles
        obtain ⟨rfl, rfl⟩ := List.append_inj same.symm length
        exact ih middle ⟨rest, inside.symm⟩ further

end ChatScript
