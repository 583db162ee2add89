/-!
# Decimal numbers in text

Reading decimal digits and signed decimals, and the range of the numbers that scripts compute with.
Digits are read under a limit, and reading ends as soon as the limit is passed, so that even a long
run of digits never makes a large number (`readUpTo?_eq`).
-/

namespace ChatScript.Text

/-- The least number a script can hold, which is -2^63. -/
def minNumber : Int := -9223372036854775808

/-- The greatest number a script can hold, which is 2^63 - 1. -/
def maxNumber : Int := 9223372036854775807

/-- The greatest size or position, which is 2^64 - 1. -/
def maxSize : Nat := 18446744073709551615

/-- `n`, if it is in the range of the numbers that a script can hold. -/
def inRange? (n : Int) : Option Int :=
  if minNumber ≤ n ∧ n ≤ maxNumber then some n else none

/-- The number written by a non-empty run of ASCII digits. Leading zeros are allowed. -/
def readDigits? (cs : List Char) : Option Nat :=
  if cs ≠ [] ∧ cs.all Char.isDigit then some (Nat.ofDigitChars 10 cs 0) else none

/-- The number written by `n` and the digits behind it, as long as it stays within `limit`. -/
def continueUpTo? (limit n : Nat) : List Char → Option Nat
  | [] => some n
  | c :: cs =>
    if c.isDigit ∧ 10 * n + (c.toNat - '0'.toNat) ≤ limit then
      continueUpTo? limit (10 * n + (c.toNat - '0'.toNat)) cs
    else none

/-- The number written by a non-empty run of ASCII digits, unless it is greater than `limit`. -/
def readUpTo? (limit : Nat) : List Char → Option Nat
  | [] => none
  | c :: cs => continueUpTo? limit 0 (c :: cs)

/-- The number written by an optional sign and ASCII digits, if a script can hold it. -/
def readNumber? : List Char → Option Int
  | '-' :: cs => (readUpTo? minNumber.natAbs cs).map fun n => -(n : Int)
  | '+' :: cs => (readUpTo? maxNumber.toNat cs).map Int.ofNat
  | cs => (readUpTo? maxNumber.toNat cs).map Int.ofNat

/-- The position written by an optional plus sign and ASCII digits, unless it is too great for
one. -/
def readPosition? (cs : List Char) : Option Nat :=
  match cs with
  | '+' :: digits => readUpTo? maxSize digits
  | _ => readUpTo? maxSize cs

/-- A number is kept if it is in range. -/
theorem inRange?_eq_some_iff {n m : Int} :
    inRange? n = some m ↔ n = m ∧ minNumber ≤ n ∧ n ≤ maxNumber := by
  unfold inRange?
  split
  · simp_all
  · rename_i outside
    simp only [reduceCtorEq, false_iff]
    rintro ⟨-, inside⟩
    exact outside inside

/-- Further digits never make a number smaller. -/
theorem le_ofDigitChars (n : Nat) (cs : List Char) : n ≤ Nat.ofDigitChars 10 cs n := by
  induction cs generalizing n with
  | nil => simp
  | cons c cs ih =>
    rw [Nat.ofDigitChars_cons]
    have := ih (10 * n + (c.toNat - '0'.toNat))
    omega

/-- Reading stops as soon as the limit is passed, which comes to the same as comparing in the end,
since more digits never make a number smaller. -/
theorem continueUpTo?_eq (limit n : Nat) (within : n ≤ limit) (cs : List Char) :
    continueUpTo? limit n cs =
      if cs.all Char.isDigit ∧ Nat.ofDigitChars 10 cs n ≤ limit then
        some (Nat.ofDigitChars 10 cs n)
      else none := by
  induction cs generalizing n with
  | nil => simp [continueUpTo?, within]
  | cons c cs ih =>
    rw [Nat.ofDigitChars_cons, continueUpTo?]
    have grows := le_ofDigitChars (10 * n + (c.toNat - '0'.toNat)) cs
    split
    · rename_i step
      rw [ih _ step.2]
      simp [step.1]
    · rename_i refused
      rw [if_neg]
      rintro ⟨digits, small⟩
      exact refused ⟨by simp_all, by omega⟩

/-- Reading under a limit gives the number that the digits write, if it is within the limit. -/
theorem readUpTo?_eq (limit : Nat) (cs : List Char) :
    readUpTo? limit cs = (readDigits? cs).filter (· ≤ limit) := by
  cases cs with
  | nil => simp [readUpTo?, readDigits?]
  | cons c cs =>
    rw [readUpTo?, continueUpTo?_eq limit 0 (Nat.zero_le _), readDigits?]
    by_cases digits : (c :: cs).all Char.isDigit <;>
      by_cases small : Nat.ofDigitChars 10 (c :: cs) 0 ≤ limit <;>
        simp only [digits, small, Option.filter, ne_eq, reduceCtorEq, not_false_eq_true, and_self,
          and_true, and_false, ↓reduceIte, Bool.false_eq_true, decide_true, decide_false]

theorem isDigit_of_mem_repr {value : Nat} {c : Char} (member : c ∈ value.repr.toList) :
    c.isDigit := by
  rw [Nat.toList_repr] at member
  exact Nat.isDigit_of_mem_toDigits (by decide) (by decide) member

/-- The digits that a number is written with are read as that number. -/
theorem readUpTo?_repr {limit value : Nat} (within : value ≤ limit) :
    readUpTo? limit value.repr.toList = some value := by
  have digits : readDigits? value.repr.toList = some value := by
    rw [readDigits?, if_pos, Nat.toList_repr, Nat.ofDigitChars_ten_toDigits]
    refine ⟨?_, List.all_eq_true.mpr fun _ member => isDigit_of_mem_repr member⟩
    rw [Nat.toList_repr]
    exact Nat.toDigits_ne_nil
  rw [readUpTo?_eq, digits, Option.filter_some, if_pos (by simpa using within)]

end ChatScript.Text
