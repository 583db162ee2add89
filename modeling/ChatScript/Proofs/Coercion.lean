import ChatScript.Proofs.NumberRange
import ChatScript.Proofs.Scanning

/-! # Texts that hold numbers

A text may stand for the number that it holds. Every number is held by the text that it is written
with, whatever blanks are put around it (`Value.numberIn?_padded`).

Values that agree stand for the same number (`Value.toNumber?_of_agrees`). Operations that look at
nothing else cannot tell them apart (`BinaryOp.apply_of_agrees`, `rollBounds_of_agrees`). A sum also
looks at the texts of its operands, but only if one of them is no number, and an equality at their
kinds, but only if one of them is a text (`apply_add_of_agrees`, `Value.agrees_congr`). So a number
and its own text are as good as each other except in an equality with a text
(`Value.number_interchangeable`), and equality goes together with the orderings wherever it does not
compare two texts (`Value.equality_fits_orderings`).
-/

namespace ChatScript

/-! ## Numbers written as text -/

namespace Text

theorem readNumber?_of_digits {cs : List Char} (digits : ∀ c ∈ cs, c.isDigit) :
    readNumber? cs = (readUpTo? maxNumber.toNat cs).map Int.ofNat := by
  unfold readNumber?
  split
  · exact absurd (digits '-' (by simp)) (by decide)
  · exact absurd (digits '+' (by simp)) (by decide)
  · rfl

/-- A number in range is what is read from its own text. -/
theorem readNumber?_repr {n : Int} (inRange : InRange n) : readNumber? n.repr.toList = some n := by
  obtain ⟨least, greatest⟩ := inRange
  rw [Int.repr_eq_if]
  split
  · rename_i natural
    have small : n.toNat ≤ maxNumber.toNat := Int.toNat_le_toNat greatest
    rw [readNumber?_of_digits fun _ member => isDigit_of_mem_repr member, readUpTo?_repr small,
      Option.map_some, Int.ofNat_eq_natCast, Int.toNat_of_nonneg natural]
  · rename_i negative
    -- The least number has no positive counterpart, but its digits do not need one.
    have small : (-n).toNat ≤ minNumber.natAbs := by
      simp only [minNumber] at least ⊢
      omega
    have spelled : ("-" ++ (-n).toNat.repr).toList = '-' :: (-n).toNat.repr.toList := by
      simp
    have value : -((-n).toNat : Int) = n := by omega
    rw [spelled, readNumber?, readUpTo?_repr small]
    exact congrArg some value

theorem isBlank_of_mem_repr {n : Int} {c : Char} (member : c ∈ n.repr.toList) :
    isBlank c = false := by
  have ofDigit (digit : c.isDigit) : isBlank c = false := by
    by_contra blank
    have noWord := not_isWordChar_of_isBlank (by simpa using blank)
    rw [isWordChar_of_isDigit digit] at noWord
    cases noWord
  rw [Int.repr_eq_if] at member
  split at member
  · exact ofDigit (isDigit_of_mem_repr member)
  · rw [String.toList_append, List.mem_append] at member
    rcases member with sign | digit
    · obtain rfl := List.mem_singleton.mp sign
      decide
    · exact ofDigit (isDigit_of_mem_repr digit)

end Text

namespace Value

/-- A number in range is held by its text, with any blanks around it. -/
theorem numberIn?_padded {n : Int} (inRange : Text.InRange n) {front back : List Char}
    (before : ∀ c ∈ front, Text.isBlank c) (behind : ∀ c ∈ back, Text.isBlank c) :
    numberIn? (String.ofList (front ++ (number n).toText.toList ++ back)) = some n := by
  have bare : Text.trim n.repr.toList = n.repr.toList :=
    Text.trim_of_no_blank
      (fun _ first => Text.isBlank_of_mem_repr (List.mem_of_mem_head? first))
      (fun _ last => Text.isBlank_of_mem_repr (List.mem_of_mem_getLast? last))
  rw [numberIn?, String.toList_ofList, Text.trim_trail behind, Text.trim_indent before, toText,
    bare, Text.readNumber?_repr inRange]

theorem numberIn?_toText {n : Int} (inRange : Text.InRange n) :
    numberIn? (number n).toText = some n := by
  simpa using @numberIn?_padded n inRange [] [] (by simp) (by simp)

/-! ## Values that agree -/

/-- Whether a value is a text. -/
def isText : Value → Bool
  | text _ => true
  | _ => false

theorem agrees_refl (a : Value) : a.agrees a := by
  cases a <;> simp [agrees]

theorem agrees_comm (a b : Value) : a.agrees b = b.agrees a := by
  cases a <;> cases b <;> first | rfl | exact BEq.comm

/-- Values agree exactly if they are the same, or if they are a text and a number and the text holds
the number. -/
theorem agrees_iff {a b : Value} :
    a.agrees b ↔
      a = b ∨ a.isText ≠ b.isText ∧ ∃ n, a.toNumber? = some n ∧ b.toNumber? = some n := by
  cases a <;> cases b <;> simp [agrees, isText, toNumber?]

/-- Values that agree hold the same number, if any. -/
theorem toNumber?_of_agrees {a b : Value} (agree : a.agrees b) : a.toNumber? = b.toNumber? := by
  obtain rfl | ⟨-, n, isLeft, isRight⟩ := agrees_iff.mp agree
  · rfl
  · rw [isLeft, isRight]

/-- Values that agree without holding a number are the same. -/
theorem eq_of_agrees_of_none {a b : Value} (agree : a.agrees b) (none : a.toNumber? = none) :
    a = b := by
  obtain rfl | ⟨-, n, isLeft, -⟩ := agrees_iff.mp agree
  · rfl
  · rw [none] at isLeft
    cases isLeft

/-- Values of one kind only agree if they are the same. -/
theorem eq_of_agrees_of_kind {a b : Value} (agree : a.agrees b) (kind : a.isText = b.isText) :
    a = b := by
  obtain rfl | ⟨different, -⟩ := agrees_iff.mp agree
  · rfl
  · exact absurd kind different

/-- Of the values that are no text, only numbers hold numbers. -/
theorem eq_number_of_textless {a : Value} {n : Int} (holds : a.toNumber? = some n)
    (textless : a.isText = false) : a = number n := by
  cases a with
  | text content => cases textless
  | number m =>
      cases holds
      rfl
  | boolean truth => cases holds

/-- A value that has a number agrees with that number and, texts aside, with nothing else. -/
theorem agrees_eq_of_textless {a b : Value} {n : Int} (holds : a.toNumber? = some n)
    (textless : b.isText = false) : a.agrees b = decide (b = number n) := by
  rw [Bool.eq_iff_iff, decide_eq_true_iff, agrees_iff]
  constructor
  · rintro (rfl | ⟨-, m, isLeft, isRight⟩)
    · exact eq_number_of_textless holds textless
    · rw [holds] at isLeft
      cases isLeft
      exact eq_number_of_textless isRight textless
  · rintro rfl
    by_cases kind : a.isText = true
    · exact .inr ⟨by simp [kind, textless], n, holds, rfl⟩
    · exact .inl (eq_number_of_textless holds (by simpa using kind))

/-- Where one of two values is no text, they agree exactly if their numbers are the same. -/
theorem agrees_iff_of_numbers {a b : Value} {m n : Int} (isLeft : a.toNumber? = some m)
    (isRight : b.toNumber? = some n) (textless : a.isText = false ∨ b.isText = false) :
    a.agrees b ↔ m = n := by
  rcases textless with textless | textless
  · obtain rfl := eq_number_of_textless isLeft textless
    rw [agrees_comm, agrees_eq_of_textless isRight rfl, decide_eq_true_iff, number.injEq]
  · obtain rfl := eq_number_of_textless isRight textless
    rw [agrees_eq_of_textless isLeft rfl, decide_eq_true_iff, number.injEq, eq_comm]

/-- A value that is no text agrees with both of two values that agree, or with neither. -/
theorem agrees_congr_left {a a' b : Value} (agree : a.agrees a') (textless : b.isText = false) :
    a.agrees b = a'.agrees b := by
  obtain rfl | ⟨-, n, isLeft, isRight⟩ := agrees_iff.mp agree
  · rfl
  · rw [agrees_eq_of_textless isLeft textless, agrees_eq_of_textless isRight textless]

/-- An equality comes out the same for values that agree with its operands. Each of the operands may
change its kind only if the other one is no text, before and after. -/
theorem agrees_congr {a a' b b' : Value} (left : a.agrees a') (right : b.agrees b')
    (leftKind : a = a' ∨ b.isText = false ∧ b'.isText = false)
    (rightKind : b = b' ∨ a.isText = false ∧ a'.isText = false) : a.agrees b = a'.agrees b' := by
  rcases leftKind with rfl | ⟨before, after⟩
  · rcases rightKind with rfl | ⟨textless, -⟩
    · rfl
    · rw [agrees_comm a b, agrees_comm a b', agrees_congr_left right textless]
  · obtain rfl := eq_of_agrees_of_kind right (before.trans after.symm)
    exact agrees_congr_left left before

end Value

/-! ## Operations on values that agree -/

/-- Operands that agree are the same number or the same mismatch. -/
theorem operandNumber_of_agrees {a b : Value} (agree : a.agrees b) (op : BinaryOp) :
    operandNumber op a = operandNumber op b := by
  obtain rfl | ⟨-, n, isLeft, isRight⟩ := Value.agrees_iff.mp agree
  · rfl
  · rw [operandNumber, operandNumber, isLeft, isRight]

/-- Bounds that agree are the same number or the same mismatch. -/
theorem rollBound_of_agrees {a b : Value} (agree : a.agrees b) : rollBound a = rollBound b := by
  obtain rfl | ⟨-, n, isLeft, isRight⟩ := Value.agrees_iff.mp agree
  · rfl
  · rw [rollBound, rollBound, isLeft, isRight]

/-- The bounds of a random number do not depend on whether they are numbers or texts. -/
theorem rollBounds_of_agrees {arguments others : List Value}
    (agree : List.Forall₂ (fun a b => a.agrees b) arguments others) :
    rollBounds arguments = rollBounds others := by
  match agree with
  | .nil => rfl
  | .cons _ .nil => rfl
  | .cons first (.cons second .nil) =>
      rw [rollBounds, rollBounds, rollBound_of_agrees first, rollBound_of_agrees second]
  | .cons _ (.cons _ (.cons _ more)) =>
      simp only [rollBounds, List.length_cons, more.length_eq]

namespace BinaryOp

/-- Whether both operands of an operation have to be numbers. -/
def needsNumbers : BinaryOp → Bool
  | .add | .equal | .notEqual => false
  | _ => true

/-- The order of numbers that an operation tests, if it tests one. -/
def order? : BinaryOp → Option (Int → Int → Bool)
  | .less => some fun m n => m < n
  | .lessEqual => some fun m n => m ≤ n
  | .greater => some fun m n => m > n
  | .greaterEqual => some fun m n => m ≥ n
  | _ => none

/-- An ordering tests the numbers that its operands hold. -/
theorem apply_of_order {op : BinaryOp} {order : Int → Int → Bool} (tests : op.order? = some order)
    (a b : Value) : op.apply a b =
      operandNumbers op a b >>= fun numbers => .ok (.boolean (order numbers.1 numbers.2)) := by
  cases op <;> cases tests <;> rfl

/-- An operation that needs numbers looks at nothing else. -/
theorem apply_of_agrees {op : BinaryOp} (needs : op.needsNumbers) {a a' b b' : Value}
    (left : a.agrees a') (right : b.agrees b') : op.apply a b = op.apply a' b' := by
  have numbers : operandNumbers op a b = operandNumbers op a' b' := by
    rw [operandNumbers, operandNumbers, operandNumber_of_agrees left,
      operandNumber_of_agrees right]
  cases op with
  | add | equal | notEqual => cases needs
  | subtract | less | lessEqual | greater | greaterEqual => simp only [apply, numbers]

/-- A sum looks at the text of an operand only if the other operand is no number. -/
theorem apply_add_of_agrees {a a' b b' : Value} (left : a.agrees a') (right : b.agrees b')
    (leftText : a.toText = a'.toText ∨ b.toNumber?.isSome)
    (rightText : b.toText = b'.toText ∨ a.toNumber?.isSome) :
    BinaryOp.add.apply a b = BinaryOp.add.apply a' b' := by
  cases isLeft : a.toNumber? with
  | none =>
      obtain rfl := Value.eq_of_agrees_of_none left isLeft
      have sameText : b.toText = b'.toText := by simpa [isLeft] using rightText
      rw [apply_add_of_none (.inl isLeft), apply_add_of_none (.inl isLeft), sameText]
  | some m =>
      cases isRight : b.toNumber? with
      | none =>
          obtain rfl := Value.eq_of_agrees_of_none right isRight
          have sameText : a.toText = a'.toText := by simpa [isRight] using leftText
          rw [apply_add_of_none (.inr isRight), apply_add_of_none (.inr isRight), sameText]
      | some n =>
          simp only [apply, ← Value.toNumber?_of_agrees left, ← Value.toNumber?_of_agrees right,
            isLeft, isRight]

/-- The operation comes out true. -/
def Holds (op : BinaryOp) (a b : Value) : Prop :=
  op.apply a b = .ok (.boolean true)

theorem holds_equal_iff {a b : Value} : BinaryOp.equal.Holds a b ↔ a.agrees b := by
  simp [Holds, apply]

/-- An ordering holds where it holds of the numbers. -/
theorem holds_iff_of_order (op : BinaryOp) {order : Int → Int → Bool}
    (tests : op.order? = some order) {a b : Value} {m n : Int} (isLeft : a.toNumber? = some m)
    (isRight : b.toNumber? = some n) : op.Holds a b ↔ order m n := by
  rw [Holds, apply_of_order tests, operandNumbers_of_numbers op isLeft isRight, ok_bind]
  simp

/-- The operations that put two numbers in order. -/
def orderings : List BinaryOp :=
  [.less, .lessEqual, .greater, .greaterEqual]

theorem exists_order {op : BinaryOp} (isOrdering : op ∈ orderings) :
    ∃ order, op.order? = some order := by
  simp only [orderings, List.mem_cons, List.not_mem_nil, or_false] at isOrdering
  rcases isOrdering with rfl | rfl | rfl | rfl <;> exact ⟨_, rfl⟩

/-- The orderings need two numbers, and that is all they need. -/
theorem orderings_fail_or_succeed (a b : Value) :
    (∀ op ∈ orderings, ∃ message, op.apply a b = .error (.mismatch message)) ∨
      ∀ op ∈ orderings, ∃ truth, op.apply a b = .ok (.boolean truth) := by
  by_cases numbers : a.toNumber? = none ∨ b.toNumber? = none
  · refine .inl fun op isOrdering => ?_
    obtain ⟨order, tests⟩ := exists_order isOrdering
    obtain ⟨message, failed⟩ := operandNumbers_of_none op numbers
    rw [apply_of_order tests, failed]
    exact ⟨message, rfl⟩
  · rw [not_or, ← ne_eq, ← ne_eq, Option.ne_none_iff_exists', Option.ne_none_iff_exists'] at numbers
    obtain ⟨⟨m, isLeft⟩, n, isRight⟩ := numbers
    refine .inr fun op isOrdering => ?_
    obtain ⟨order, tests⟩ := exists_order isOrdering
    rw [apply_of_order tests, operandNumbers_of_numbers op isLeft isRight]
    exact ⟨order m n, rfl⟩

/-- How two numbers compare. -/
def comparing (m n : Int) : BinaryOp :=
  if m < n then .less else if m = n then .equal else .greater

/-- Of less, equal and greater, the one holds that says how the numbers compare. -/
theorem holds_iff_eq_comparing {a b : Value} {m n : Int} (isLeft : a.toNumber? = some m)
    (isRight : b.toNumber? = some n) (textless : a.isText = false ∨ b.isText = false)
    (op : BinaryOp) :
    op ∈ [BinaryOp.less, .equal, .greater] ∧ op.Holds a b ↔ op = comparing m n := by
  have less : BinaryOp.less.Holds a b ↔ m < n := by
    simpa using holds_iff_of_order .less rfl isLeft isRight
  have equal : BinaryOp.equal.Holds a b ↔ m = n :=
    holds_equal_iff.trans (Value.agrees_iff_of_numbers isLeft isRight textless)
  have greater : BinaryOp.greater.Holds a b ↔ n < m := by
    simpa using holds_iff_of_order .greater rfl isLeft isRight
  unfold comparing
  constructor
  · rintro ⟨member, holds⟩
    simp only [List.mem_cons, List.not_mem_nil, or_false] at member
    rcases member with rfl | rfl | rfl
    · rw [if_pos (less.mp holds)]
    · have same := equal.mp holds
      rw [if_neg (by omega), if_pos same]
    · have beyond := greater.mp holds
      rw [if_neg (by omega), if_neg (by omega)]
  · rintro rfl
    split_ifs with isLess isEqual
    · exact ⟨by simp, less.mpr isLess⟩
    · exact ⟨by simp, equal.mpr isEqual⟩
    · exact ⟨by simp, greater.mpr (by omega)⟩

end BinaryOp

/-! ## Results -/

namespace Value

/-- Neither an operation nor `roll` tells two values apart, whichever operand or argument they are.
This goes for an equality only if the other operand is no text. -/
structure Interchangeable (a b : Value) : Prop where
  left : ∀ (op : BinaryOp) (other : Value) (line : Nat),
    (op = .equal ∨ op = .notEqual → other.isText = false) →
    Step.lift line (op.apply a other) = Step.lift line (op.apply b other)
  right : ∀ (op : BinaryOp) (other : Value) (line : Nat),
    (op = .equal ∨ op = .notEqual → other.isText = false) →
    Step.lift line (op.apply other a) = Step.lift line (op.apply other b)
  low : ∀ (context : Context) (line : Nat) (high : Value),
    Step.apply context line .roll [a, high] = Step.apply context line .roll [b, high]
  high : ∀ (context : Context) (line : Nat) (low : Value),
    Step.apply context line .roll [low, a] = Step.apply context line .roll [low, b]

/-- Values that agree and have the same text are interchangeable. -/
theorem interchangeable_of_agrees {a b : Value} (agree : a.agrees b)
    (sameText : a.toText = b.toText) : Interchangeable a b where
  left op other line textless := by
    congr 1
    cases op with
    | add =>
        exact BinaryOp.apply_add_of_agrees agree (agrees_refl other) (.inl sameText) (.inl rfl)
    | equal | notEqual =>
        have noText := textless (by simp)
        simp only [BinaryOp.apply, agrees_congr_left agree noText]
    | subtract | less | lessEqual | greater | greaterEqual =>
        exact BinaryOp.apply_of_agrees rfl agree (agrees_refl other)
  right op other line textless := by
    congr 1
    cases op with
    | add =>
        exact BinaryOp.apply_add_of_agrees (agrees_refl other) agree (.inl rfl) (.inl sameText)
    | equal | notEqual =>
        have noText := textless (by simp)
        simp only [BinaryOp.apply, agrees_comm other, agrees_congr_left agree noText]
    | subtract | less | lessEqual | greater | greaterEqual =>
        exact BinaryOp.apply_of_agrees rfl (agrees_refl other) agree
  low context line high := by
    rw [Step.apply, Step.apply,
      rollBounds_of_agrees (.cons agree (.cons (agrees_refl high) .nil))]
  high context line low := by
    rw [Step.apply, Step.apply,
      rollBounds_of_agrees (.cons (agrees_refl low) (.cons agree .nil))]

/-- **A number survives being turned into text.** It is the number of its own text, with any blanks
around it, and no operation and no bound of a random number tells the two apart, except for an
equality with a text. -/
theorem number_interchangeable {n : Int} (inRange : Text.InRange n) :
    (∀ front back : List Char, (∀ c ∈ front, Text.isBlank c) → (∀ c ∈ back, Text.isBlank c) →
      (text (String.ofList (front ++ (number n).toText.toList ++ back))).toNumber? = some n) ∧
    Interchangeable (number n) (text (number n).toText) := by
  refine ⟨fun front back before behind => numberIn?_padded inRange before behind, ?_⟩
  have agree : (number n).agrees (text (number n).toText) := by
    simp [agrees, numberIn?_toText inRange]
  exact interchangeable_of_agrees agree rfl

/-- The least number and its text are interchangeable, with blanks around it too. -/
theorem number_interchangeable_least :
    (text " -9223372036854775808\n").toNumber? = some Text.minNumber ∧
      ∀ other : Value, other.isText = false →
        Step.lift 1 (BinaryOp.equal.apply (number Text.minNumber) other) =
          Step.lift 1 (BinaryOp.equal.apply (text "-9223372036854775808") other) := by
  have spelled : (number Text.minNumber).toText = "-9223372036854775808" := by decide +kernel
  have whole : String.ofList ([' '] ++ "-9223372036854775808".toList ++ ['\n']) =
      " -9223372036854775808\n" := by decide +kernel
  have inRange : Text.InRange Text.minNumber := by decide
  obtain ⟨padded, same⟩ := number_interchangeable inRange
  rw [spelled] at padded same
  have read := padded [' '] ['\n'] (List.forall_mem_singleton.mpr (by decide))
    (List.forall_mem_singleton.mpr (by decide))
  rw [whole] at read
  exact ⟨read, fun other textless => same.left .equal other 1 fun _ => textless⟩

/-- **Equality agrees with the orderings.** Equality does not depend on the order of its operands,
inequality is its opposite, and the orderings fail all together or not at all. Of two values that
have numbers, at least one being a number itself, exactly one of less, equal and greater holds, and
the other two orderings are made up of these. -/
theorem equality_fits_orderings (a b : Value) :
    BinaryOp.equal.apply a b = BinaryOp.equal.apply b a ∧
    (∃ truth, BinaryOp.equal.apply a b = .ok (.boolean truth) ∧
      BinaryOp.notEqual.apply a b = .ok (.boolean !truth)) ∧
    ((∀ op ∈ BinaryOp.orderings, ∃ message, op.apply a b = .error (.mismatch message)) ∨
      ∀ op ∈ BinaryOp.orderings, ∃ truth, op.apply a b = .ok (.boolean truth)) ∧
    (a.toNumber?.isSome → b.toNumber?.isSome → ((∃ m, a = number m) ∨ ∃ n, b = number n) →
      (∃! op, op ∈ [BinaryOp.less, .equal, .greater] ∧ op.Holds a b) ∧
      (BinaryOp.lessEqual.Holds a b ↔ BinaryOp.less.Holds a b ∨ BinaryOp.equal.Holds a b) ∧
      (BinaryOp.greaterEqual.Holds a b ↔
        BinaryOp.greater.Holds a b ∨ BinaryOp.equal.Holds a b)) := by
  refine ⟨?_, ⟨a.agrees b, rfl, rfl⟩, BinaryOp.orderings_fail_or_succeed a b, ?_⟩
  · rw [BinaryOp.apply, BinaryOp.apply, agrees_comm]
  · intro someLeft someRight oneNumber
    obtain ⟨m, isLeft⟩ := Option.isSome_iff_exists.mp someLeft
    obtain ⟨n, isRight⟩ := Option.isSome_iff_exists.mp someRight
    have textless : a.isText = false ∨ b.isText = false := by
      rcases oneNumber with ⟨_, rfl⟩ | ⟨_, rfl⟩
      · exact .inl rfl
      · exact .inr rfl
    have compares := BinaryOp.holds_iff_eq_comparing isLeft isRight textless
    have equal := BinaryOp.holds_equal_iff.trans (agrees_iff_of_numbers isLeft isRight textless)
    have holds (op : BinaryOp) {order : Int → Int → Bool} (tests : op.order? = some order) :=
      BinaryOp.holds_iff_of_order op tests isLeft isRight
    refine ⟨⟨_, (compares _).mpr rfl, fun op holds => (compares op).mp holds⟩, ?_, ?_⟩
    · rw [holds .lessEqual rfl, holds .less rfl, equal]
      simpa using Int.le_iff_lt_or_eq
    · rw [holds .greaterEqual rfl, holds .greater rfl, equal]
      simpa [eq_comm] using Int.le_iff_lt_or_eq (a := n) (b := m)

/-- A text that holds a number is compared as the number in all of the ways. -/
theorem equality_fits_orderings_padded :
    (text " +042\t").toNumber? = some 42 ∧
      (∃! op, op ∈ [BinaryOp.less, .equal, .greater] ∧ op.Holds (text " +042\t") (number 42)) ∧
      (BinaryOp.lessEqual.Holds (text " +042\t") (number 42) ↔
        BinaryOp.less.Holds (text " +042\t") (number 42) ∨
          BinaryOp.equal.Holds (text " +042\t") (number 42)) := by
  have read : (text " +042\t").toNumber? = some 42 := by decide +kernel
  obtain ⟨-, -, -, compares⟩ := equality_fits_orderings (text " +042\t") (number 42)
  obtain ⟨one, lessEqual, -⟩ := compares (by rw [read]; rfl) rfl (.inr ⟨42, rfl⟩)
  exact ⟨read, one, lessEqual⟩

end Value

end ChatScript
