import ChatScript.Json.Codec
import Mathlib.Tactic.SplitIfs

/-! # Documents that are read back

A JSON value whose integers are no greater than a size and whose texts are strings (`Json.Proper`)
can be written as it is, and reading the document gives the value back (`Json.Proper.read?_render`).
A value is read wherever it stands, whatever comes behind it, unless that continues a number
(`Json.Reads`); the bound of the reader leaves two steps for every character of the value.

So the text that counts are kept in is read as these counts (`Counts.read?_render`).
-/

namespace ChatScript

namespace Json

/-! ## Texts -/

/-- The two digits that a control character is escaped with are read as its code. -/
theorem hexCode?_hexPair : ∀ code < 0x20,
    hexCode? '0' '0' (Nat.digitChar (code / 16)) (Nat.digitChar (code % 16)) = some code := by
  decide

/-- A simple escape is read as the character that it stands for. -/
theorem readAtoms_simple {letter c : Char} (stands : simpleEscape? letter = some c)
    (cs : List Char) :
    readAtoms ('\\' :: letter :: cs) =
      (readAtoms cs).map fun read => (.char c :: read.1, read.2) := by
  rw [readAtoms]
  · rw [stands]
    cases readAtoms cs <;> rfl
  · rintro a b d e rest rfl
    -- The letter that begins a code stands for no character by itself.
    have unknown : simpleEscape? 'u' = none := rfl
    rw [unknown] at stands
    cases stands

/-- A control character is read from its code. -/
theorem readAtoms_code {code : Nat} (control : code < 0x20) (cs : List Char) :
    readAtoms (['\\', 'u', '0', '0'] ++ hexPair code ++ cs) =
      (readAtoms cs).map fun read => (.char (Char.ofNat code) :: read.1, read.2) := by
  have plain : Atom.ofCode code = .char (Char.ofNat code) := if_neg (by omega)
  rw [← plain]
  show readAtoms ('\\' :: 'u' :: '0' :: '0' :: Nat.digitChar (code / 16) ::
    Nat.digitChar (code % 16) :: cs) = _
  rw [readAtoms, hexCode?_hexPair code control]
  cases readAtoms cs <;> rfl

theorem readAtoms_plain {c : Char} (quote : c ≠ '"') (backslash : c ≠ '\\')
    (large : ¬c.toNat < 0x20) (cs : List Char) :
    readAtoms (c :: cs) = (readAtoms cs).map fun read => (.char c :: read.1, read.2) := by
  rw [readAtoms]
  · rw [if_neg (by simp [large, backslash])]
    cases readAtoms cs <;> rfl
  all_goals simp_all

/-- What stands for a character in a text is read as that character. -/
theorem readAtoms_escapeTextChar (c : Char) (cs : List Char) :
    readAtoms (escapeTextChar c ++ cs) =
      (readAtoms cs).map fun read => (.char c :: read.1, read.2) := by
  rw [escapeTextChar]
  split_ifs with quote backslash _ _ _ _ _ control
  iterate 7 · subst c; exact readAtoms_simple rfl cs
  · rw [readAtoms_code control, Char.ofNat_toNat]
  · exact readAtoms_plain quote backslash control cs

/-- An escaped text is read as its characters up to the closing quote mark. -/
theorem readAtoms_flatMap_escapeTextChar (cs rest : List Char) :
    readAtoms (cs.flatMap escapeTextChar ++ '"' :: rest) = some (cs.map .char, rest) := by
  induction cs with
  | nil => rfl
  | cons c cs ih =>
      rw [List.flatMap_cons, List.append_assoc, readAtoms_escapeTextChar, ih]
      rfl

/-- Characters that are no surrogates are joined as they are. -/
theorem joinAtoms_map_char (cs : List Char) : joinAtoms (cs.map .char) = some cs := by
  induction cs with
  | nil => rfl
  | cons c cs ih => rw [List.map_cons, joinAtoms, ih, Option.map_some]

theorem toList_renderText (content : String) :
    (renderText (some content)).toList =
      '"' :: (content.toList.flatMap escapeTextChar ++ ['"']) := by
  simp [renderText]

/-- A text is read from behind its opening quote. -/
theorem readText_renderText (content : String) (rest : List Char) :
    readText (content.toList.flatMap escapeTextChar ++ '"' :: rest) =
      some (some content, rest) := by
  rw [readText, readAtoms_flatMap_escapeTextChar, Option.map_some, joinAtoms_map_char,
    Option.map_some, String.ofList_toList]

/-! ## Numbers -/

/-- What comes behind a number does not continue it. -/
def EndsNumber (rest : List Char) : Prop :=
  ∀ c ∈ rest.head?, c.isDigit = false ∧ c ≠ '.' ∧ c ≠ 'e' ∧ c ≠ 'E'

theorem skipFraction_of_ends {rest : List Char} (ends : EndsNumber rest) :
    skipFraction rest = some (false, rest) := by
  cases rest with
  | nil => rfl
  | cons c rest =>
      obtain ⟨-, dot, -, -⟩ := ends c rfl
      rw [skipFraction]
      rintro cs ⟨rfl, rfl⟩
      exact dot rfl

theorem skipExponent_of_ends {rest : List Char} (ends : EndsNumber rest) :
    skipExponent rest = some (false, rest) := by
  cases rest with
  | nil => rfl
  | cons c rest =>
      obtain ⟨-, -, lower, upper⟩ := ends c rfl
      rw [skipExponent]
      · rintro cs ⟨rfl, rfl⟩
        exact lower rfl
      · rintro cs ⟨rfl, rfl⟩
        exact upper rfl

/-- Digits are taken up to where the number ends, and no further. -/
theorem EndsNumber.takeWhile_append {rest : List Char} (ends : EndsNumber rest) {digits : List Char}
    (all : ∀ c ∈ digits, c.isDigit) :
    (digits ++ rest).takeWhile Char.isDigit = digits ∧
      (digits ++ rest).dropWhile Char.isDigit = rest := by
  have none : rest.takeWhile Char.isDigit = [] ∧ rest.dropWhile Char.isDigit = rest := by
    cases rest with
    | nil => exact ⟨rfl, rfl⟩
    | cons c rest => simp [(ends c rfl).1]
  rw [List.takeWhile_append_of_pos all, List.dropWhile_append_of_pos all, none.1, none.2,
    List.append_nil]
  exact ⟨rfl, rfl⟩

/-- The digits of a number do not start with a zero, unless it is zero. -/
theorem head?_toDigits_ne_zero {n : Nat} (positive : 0 < n) :
    (Nat.toDigits 10 n).head? ≠ some '0' := by
  induction n using Nat.strongRecOn with
  | ind n ih =>
      by_cases single : n < 10
      · have all : ∀ m < 10, 0 < m → [Nat.digitChar m].head? ≠ some '0' := by decide
        rw [Nat.toDigits_of_lt_base single]
        exact all n single positive
      · have front := ih (n / 10) (by omega) (by omega)
        rw [Nat.toDigits_of_base_le (by decide) (by omega), List.head?_append]
        cases spelled : Nat.toDigits 10 (n / 10) with
        | nil => exact absurd spelled Nat.toDigits_ne_nil
        | cons c cs =>
            rw [spelled] at front
            exact front

theorem exists_digit_repr (n : Nat) : ∃ c cs, n.repr.toList = c :: cs ∧ c.isDigit := by
  cases spelled : n.repr.toList with
  | nil => simp [Nat.toDigits_ne_nil] at spelled
  | cons c cs =>
      have member : c ∈ n.repr.toList := by
        rw [spelled]
        exact List.mem_cons_self
      exact ⟨c, cs, rfl, Text.isDigit_of_mem_repr member⟩

/-- The digits of a number are read as that number. -/
theorem readWhole_repr {n : Nat} (small : n ≤ Text.maxSize) {rest : List Char}
    (ends : EndsNumber rest) : readWhole (n.repr.toList ++ rest) = some (some n, rest) := by
  have digits : ∀ c ∈ n.repr.toList, c.isDigit := fun _ member => Text.isDigit_of_mem_repr member
  have value := Text.readUpTo?_repr small
  by_cases zero : n = 0
  · subst zero
    rfl
  · have front : n.repr.toList.head? ≠ some '0' := by
      rw [Nat.toList_repr]
      exact head?_toDigits_ne_zero (Nat.pos_of_ne_zero zero)
    obtain ⟨taken, left⟩ := ends.takeWhile_append digits
    obtain ⟨c, cs, spelled, -⟩ := exists_digit_repr n
    rw [spelled] at front taken left value ⊢
    have whole : readDigits (c :: cs ++ rest) = some (c :: cs, rest) := by
      rw [readDigits, taken, left]
    rw [readWhole, whole, Option.map_some, value]
    rintro others ⟨⟩
    exact front rfl

/-- The digits behind a sign are read as the number with that sign. -/
theorem readUnsigned_repr (negative : Bool) {n : Nat} (small : n ≤ Text.maxSize)
    {rest : List Char} (ends : EndsNumber rest) :
    readUnsigned negative (n.repr.toList ++ rest) = some (signed negative n, rest) := by
  simp only [readUnsigned, readWhole_repr small ends, Option.bind_eq_bind, Option.bind_some,
    skipFraction_of_ends ends, skipExponent_of_ends ends]
  rfl

/-- A number is read whatever comes behind it, unless that continues it. -/
theorem readNumber_repr {value : Int} (small : value.natAbs ≤ Text.maxSize) {rest : List Char}
    (ends : EndsNumber rest) :
    readNumber (value.repr.toList ++ rest) = some (.integer value, rest) := by
  rw [Int.repr_eq_if]
  split
  · have read := readUnsigned_repr false (n := value.toNat) (by omega) ends
    obtain ⟨c, cs, spelled, digit⟩ := exists_digit_repr value.toNat
    rw [spelled] at read ⊢
    rw [List.cons_append, readNumber]
    · rw [← List.cons_append, read, signed, if_neg Bool.false_ne_true]
      congr 3
      omega
    · rintro others ⟨⟩
      cases digit
  · have minus : ("-" ++ (-value).toNat.repr).toList ++ rest =
        '-' :: ((-value).toNat.repr.toList ++ rest) := by simp
    rw [minus, readNumber, readUnsigned_repr true (by omega) ends, signed, if_pos rfl,
      if_neg (by omega)]
    congr 3
    omega

/-! ## Blanks -/

/-- A line break and its indent are blanks. -/
theorem skipBlanks_newLine (level : Nat) (cs : List Char) :
    skipBlanks ((newLine level).toList ++ cs) = skipBlanks cs := by
  have blanks : ∀ c ∈ (newLine level).toList,
      (c == ' ' || c == '\n' || c == '\t' || c == '\r') = true := by
    simp only [newLine, String.toList_append, String.toList_ofList, List.mem_append]
    rintro c (head | tail)
    · obtain rfl : c = '\n' := by simpa using head
      rfl
    · obtain rfl := List.eq_of_mem_replicate tail
      rfl
  rw [skipBlanks, List.dropWhile_append_of_pos blanks]
  rfl

/-- Blanks in front of a value are skipped. -/
theorem readValue_congr {bound : Nat} {cs others : List Char}
    (same : skipBlanks cs = skipBlanks others) :
    readValue bound cs = readValue bound others := by
  cases bound with
  | zero => rw [readValue, readValue]
  | succ bound => rw [readValue, readValue, same]

theorem readItems_congr {bound : Nat} {cs others : List Char}
    (same : skipBlanks cs = skipBlanks others) :
    readItems bound cs = readItems bound others := by
  cases bound with
  | zero => rw [readItems, readItems]
  | succ bound => rw [readItems, readItems, readValue_congr same]

theorem readMembers_congr {bound : Nat} {cs others : List Char}
    (same : skipBlanks cs = skipBlanks others) :
    readMembers bound cs = readMembers bound others := by
  cases bound with
  | zero => rw [readMembers, readMembers]
  | succ bound => rw [readMembers, readMembers, same]

/-! ## Values -/

/-- A value that can be written as it is: integers are no greater than a size, and texts and names
are strings. -/
inductive Proper : Json → Prop where
  | null : Proper .null
  | boolean (value : Bool) : Proper (.boolean value)
  | integer {value : Int} (small : value.natAbs ≤ Text.maxSize) : Proper (.integer value)
  | string (content : String) : Proper (.ofString content)
  | array {items : List Json} (each : ∀ item ∈ items, Proper item) : Proper (.array items)
  | object {members : List (JsonText × Json)} (named : ∀ member ∈ members, member.1.isSome)
      (each : ∀ member ∈ members, Proper member.2) : Proper (.object members)

/-- The text starts with something that is neither a blank nor the end of an array. -/
def Opens (text : List Char) : Prop :=
  ∃ c cs, text = c :: cs ∧ c ∉ [' ', '\n', '\t', '\r', ']']

/-- Nothing is skipped of a text that opens a value. -/
theorem Opens.skipBlanks_append {text : List Char} (opens : Opens text) (rest : List Char) :
    skipBlanks (text ++ rest) = text ++ rest := by
  obtain ⟨c, cs, rfl, solid⟩ := opens
  simp only [List.mem_cons, List.not_mem_nil, or_false, not_or] at solid
  simp [skipBlanks, solid]

theorem Opens.length_pos {text : List Char} (opens : Opens text) : 0 < text.length := by
  obtain ⟨c, cs, rfl, -⟩ := opens
  exact Nat.zero_lt_succ _

/-- The text of the entries of an array or object on the given level, with a comma and a new line
between them. -/
def listed (level : Nat) (entries : List String) : List Char :=
  (String.intercalate ("," ++ newLine level) entries).toList

@[simp] theorem listed_singleton (level : Nat) (entry : String) :
    listed level [entry] = entry.toList := by
  simp [listed]

theorem listed_cons (level : Nat) (entry next : String) (entries : List String) :
    listed level (entry :: next :: entries) =
      entry.toList ++ ',' :: ((newLine level).toList ++ listed level (next :: entries)) := by
  simp [listed, String.toList_intercalate]

theorem exists_listed_eq (level : Nat) (entry : String) (entries : List String) :
    ∃ others, listed level (entry :: entries) = entry.toList ++ others := by
  cases entries with
  | nil => exact ⟨[], by simp⟩
  | cons next entries => exact ⟨_, listed_cons level entry next entries⟩

/-- Entries are enclosed on lines of their own. -/
theorem toList_enclose (opening closing : String) (level : Nat) (entry : String)
    (entries : List String) :
    (enclose opening closing level (entry :: entries)).toList =
      opening.toList ++ ((newLine (level + 1)).toList ++
        (listed (level + 1) (entry :: entries) ++ ((newLine level).toList ++ closing.toList))) := by
  simp [enclose, listed]

/-- What is enclosed opens with its bracket. -/
theorem opens_enclose {opening closing : String} (opens : Opens opening.toList) (level : Nat)
    (entries : List String) : Opens (enclose opening closing level entries).toList := by
  obtain ⟨c, cs, spelled, solid⟩ := opens
  cases entries with
  | nil => exact ⟨c, _, by rw [enclose, String.toList_append, spelled, List.cons_append], solid⟩
  | cons => exact ⟨c, _, by rw [toList_enclose, spelled, List.cons_append], solid⟩

theorem exists_front_repr (value : Int) :
    ∃ c cs, value.repr.toList = c :: cs ∧ (c.isDigit = true ∨ c = '-') := by
  rw [Int.repr_eq_if]
  split
  · obtain ⟨c, cs, spelled, digit⟩ := exists_digit_repr value.toNat
    exact ⟨c, cs, spelled, .inl digit⟩
  · exact ⟨'-', _, String.toList_append, .inr rfl⟩

theorem opens_repr (value : Int) : Opens value.repr.toList := by
  obtain ⟨c, cs, spelled, front⟩ := exists_front_repr value
  refine ⟨c, cs, spelled, ?_⟩
  simp only [List.mem_cons, List.not_mem_nil, or_false]
  rintro (rfl | rfl | rfl | rfl | rfl) <;> revert front <;> decide

/-- The text of every proper value opens a value. -/
theorem Proper.opens {json : Json} (proper : json.Proper) (level : Nat) :
    Opens (json.renderAt level).toList := by
  cases proper with
  | null =>
      rw [renderAt]
      exact ⟨'n', "ull".toList, by decide, by decide⟩
  | boolean value =>
      cases value with
      | true =>
          rw [renderAt]
          exact ⟨'t', "rue".toList, by decide, by decide⟩
      | false =>
          rw [renderAt]
          exact ⟨'f', "alse".toList, by decide, by decide⟩
  | integer small =>
      rw [renderAt]
      exact opens_repr _
  | string content =>
      rw [ofString, renderAt]
      exact ⟨'"', _, toList_renderText content, by decide⟩
  | array each =>
      rw [renderAt]
      exact opens_enclose ⟨'[', [], by decide, by decide⟩ level _
  | object named each =>
      rw [renderAt]
      exact opens_enclose ⟨'\x7b', [], by decide, by decide⟩ level _

theorem endsNumber_newLine (level : Nat) (rest : List Char) :
    EndsNumber ((newLine level).toList ++ rest) := by
  intro c head
  obtain rfl : c = '\n' := by simpa [newLine, eq_comm] using head
  decide

theorem endsNumber_comma (rest : List Char) : EndsNumber (',' :: rest) := by
  rintro c ⟨⟩
  decide

theorem skipBlanks_cons {c : Char} (solid : c ∉ [' ', '\n', '\t', '\r']) (rest : List Char) :
    skipBlanks (c :: rest) = c :: rest := by
  simp only [List.mem_cons, List.not_mem_nil, or_false, not_or] at solid
  simp [skipBlanks, solid]

theorem skipBlanks_newLine_cons {c : Char} (solid : c ∉ [' ', '\n', '\t', '\r']) (level : Nat)
    (rest : List Char) : skipBlanks ((newLine level).toList ++ c :: rest) = c :: rest := by
  rw [skipBlanks_newLine, skipBlanks_cons solid]

/-- The value is read wherever it is written, if the bound leaves two steps for each of its
characters. -/
def Reads (json : Json) : Prop :=
  ∀ level bound rest, EndsNumber rest →
    2 * (json.renderAt level).toList.length ≤ bound + 2 →
      readValue (bound + 1) ((json.renderAt level).toList ++ rest) = some (json, rest)

/-- Reads an item, and then goes on behind the comma. -/
theorem readItems_item {bound : Nat} {item : Json} {cs after : List Char}
    (read : readValue bound cs = some (item, after)) :
    readItems (bound + 1) cs =
      match skipBlanks after with
      | ',' :: rest => (readItems bound rest).map fun others => (item :: others.1, others.2)
      | ']' :: rest => some ([item], rest)
      | _ => none := by
  rw [readItems, read]
  rfl

/-- Printed items are read again, if each of them is and the bound is large enough for their text.
-/
theorem readItems_renderItems {items : List Json} (nonempty : items ≠ [])
    (proper : ∀ item ∈ items, item.Proper) (each : ∀ item ∈ items, item.Reads) (level bound : Nat)
    (room : 2 * (listed level (renderItems level items)).length ≤ bound) (outer : Nat)
    (rest : List Char) :
    readItems bound (listed level (renderItems level items) ++
      ((newLine outer).toList ++ ']' :: rest)) = some (items, rest) := by
  induction items generalizing bound with
  | nil => exact absurd rfl nonempty
  | cons item items ih =>
      rw [List.forall_mem_cons] at proper each
      have front := (proper.1.opens level).length_pos
      cases items with
      | nil =>
          rw [renderItems, renderItems, listed_singleton] at room ⊢
          obtain ⟨bound, rfl⟩ : ∃ less, bound = less + 2 := ⟨bound - 2, by omega⟩
          rw [readItems_item (each.1 level bound _ (endsNumber_newLine outer _) room),
            skipBlanks_newLine_cons (by decide)]
          rfl
      | cons next items =>
          rw [renderItems, renderItems, listed_cons] at room ⊢
          rw [List.length_append, List.length_cons, List.length_append] at room
          obtain ⟨bound, rfl⟩ : ∃ less, bound = less + 2 := ⟨bound - 2, by omega⟩
          have others := ih (by simp) proper.2 each.2 (bound + 1)
            (by rw [renderItems]; omega)
          rw [renderItems] at others
          rw [List.append_assoc, List.cons_append, List.append_assoc]
          rw [readItems_item (each.1 level bound _ (endsNumber_comma _) (by omega)),
            skipBlanks_cons (by decide)]
          simp only [readItems_congr (skipBlanks_newLine level _), others, Option.map_some]

theorem toList_member (name : String) (value : Json) (level : Nat) :
    (renderText (some name) ++ ": " ++ value.renderAt level).toList =
      '"' :: (name.toList.flatMap escapeTextChar ++
        '"' :: ':' :: ' ' :: (value.renderAt level).toList) := by
  simp [toList_renderText]

/-- Reads a member, and then goes on behind the comma. -/
theorem readMembers_member {bound : Nat} {value : Json} {cs after : List Char}
    (read : readValue bound cs = some (value, after)) (name : String) :
    readMembers (bound + 1) ('"' :: (name.toList.flatMap escapeTextChar ++
      '"' :: ':' :: ' ' :: cs)) =
      match skipBlanks after with
      | ',' :: rest =>
        (readMembers bound rest).map fun others => ((some name, value) :: others.1, others.2)
      | '\x7d' :: rest => some ([(some name, value)], rest)
      | _ => none := by
  have blank : readValue bound (' ' :: cs) = some (value, after) := by
    rw [← read]
    exact readValue_congr rfl
  rw [readMembers, skipBlanks_cons (by decide)]
  simp only [readText_renderText]
  show (readValue bound (' ' :: cs)).bind _ = _
  rw [blank]
  rfl

/-- Printed members are read again, if each of their values is and the bound is large enough for
their text. -/
theorem readMembers_renderMembers {members : List (JsonText × Json)} (nonempty : members ≠ [])
    (named : ∀ member ∈ members, member.1.isSome) (each : ∀ member ∈ members, member.2.Reads)
    (level bound : Nat) (room : 2 * (listed level (renderMembers level members)).length ≤ bound)
    (outer : Nat) (rest : List Char) :
    readMembers bound (listed level (renderMembers level members) ++
      ((newLine outer).toList ++ '\x7d' :: rest)) = some (members, rest) := by
  induction members generalizing bound with
  | nil => exact absurd rfl nonempty
  | cons member members ih =>
      rw [List.forall_mem_cons] at named each
      obtain ⟨name, value⟩ := member
      obtain ⟨name, rfl⟩ := Option.isSome_iff_exists.mp named.1
      have first : value.Reads := each.1
      cases members with
      | nil =>
          rw [renderMembers, renderMembers, listed_singleton, toList_member] at room ⊢
          simp only [List.length_cons, List.length_append] at room
          obtain ⟨bound, rfl⟩ : ∃ less, bound = less + 2 := ⟨bound - 2, by omega⟩
          have read := first level bound ((newLine outer).toList ++ '\x7d' :: rest)
            (endsNumber_newLine outer _) (by omega)
          simp only [List.cons_append, List.append_assoc]
          rw [readMembers_member read, skipBlanks_newLine_cons (by decide)]
          rfl
      | cons next members =>
          obtain ⟨other, inner⟩ := next
          rw [renderMembers, renderMembers, listed_cons, toList_member] at room ⊢
          simp only [List.length_cons, List.length_append] at room
          obtain ⟨bound, rfl⟩ : ∃ less, bound = less + 2 := ⟨bound - 2, by omega⟩
          have others := ih (by simp) named.2 each.2 (bound + 1)
            (by rw [renderMembers]; omega)
          rw [renderMembers] at others
          have read := fun after => first level bound (',' :: after) (endsNumber_comma _)
            (by omega)
          simp only [List.cons_append, List.append_assoc]
          rw [readMembers_member (read _), skipBlanks_cons (by decide)]
          simp only [readMembers_congr (skipBlanks_newLine level _), others, Option.map_some]

/-- Text is read again as it was printed. -/
theorem reads_ofString (content : String) : (ofString content).Reads := by
  intro level bound rest ends room
  rw [ofString, renderAt, toList_renderText]
  simp only [List.cons_append, List.append_assoc, List.nil_append, readValue,
    skipBlanks_cons (show '"' ∉ _ by decide), readText_renderText, Option.map_some]

/-- Numbers that are small enough are read again as they were printed. -/
theorem reads_integer {value : Int} (small : value.natAbs ≤ Text.maxSize) :
    (integer value).Reads := by
  intro level bound rest ends room
  have solid := (opens_repr value).skipBlanks_append rest
  have read := readNumber_repr small ends
  obtain ⟨c, cs, spelled, front⟩ := exists_front_repr value
  rw [renderAt, spelled]
  rw [spelled] at solid read
  rw [readValue, solid]
  split
  case h_7 => exact read
  all_goals
    rename_i same
    obtain ⟨rfl, -⟩ := List.cons.inj same
    exact absurd front (by decide)

/-- Reads an array that is not closed at once. -/
theorem readValue_items {after rest : List Char} {c : Char} (front : skipBlanks after = c :: rest)
    (goesOn : c ≠ ']') (bound : Nat) :
    readValue (bound + 1) ('[' :: after) =
      (readItems bound (c :: rest)).map fun read => (.array read.1, read.2) := by
  rw [readValue, skipBlanks_cons (by decide)]
  simp only [front]
  split
  · rename_i closed
    exact absurd (List.cons.inj closed).1 goesOn
  · rfl

/-- Reads an object that is not closed at once. -/
theorem readValue_members {after rest : List Char} {c : Char} (front : skipBlanks after = c :: rest)
    (goesOn : c ≠ '\x7d') (bound : Nat) :
    readValue (bound + 1) ('\x7b' :: after) =
      (readMembers bound (c :: rest)).map fun read => (.object read.1, read.2) := by
  rw [readValue, skipBlanks_cons (by decide)]
  simp only [front]
  split
  · rename_i closed
    exact absurd (List.cons.inj closed).1 goesOn
  · rfl

/-- Arrays are read again if their items are. -/
theorem reads_array {items : List Json} (proper : ∀ item ∈ items, item.Proper)
    (each : ∀ item ∈ items, item.Reads) : (array items).Reads := by
  intro level bound rest ends room
  rw [renderAt] at room ⊢
  cases items with
  | nil =>
      rw [renderItems, enclose]
      show readValue (bound + 1) ('[' :: ']' :: rest) = _
      rw [readValue, skipBlanks_cons (by decide)]
      rfl
  | cons item items =>
      have inner := readItems_renderItems (List.cons_ne_nil item items) proper each (level + 1)
        bound
      rw [renderItems] at inner
      rw [renderItems, toList_enclose] at room ⊢
      simp only [List.length_append, String.reduceToList, List.length_cons, List.length_nil] at room
      replace inner := inner (by omega) level rest
      obtain ⟨others, spelled⟩ := exists_listed_eq (level + 1) (item.renderAt (level + 1))
        (renderItems (level + 1) items)
      obtain ⟨c, cs, front, solid⟩ := (proper item List.mem_cons_self).opens (level + 1)
      rw [front, List.cons_append] at spelled
      rw [spelled] at inner ⊢
      simp only [String.reduceToList, List.cons_append, List.append_assoc,
        List.nil_append] at inner ⊢
      have solid' : c ∉ [' ', '\n', '\t', '\r'] ∧ c ≠ ']' := by simp_all
      rw [readValue_items (skipBlanks_newLine_cons solid'.1 _ _) solid'.2, inner, Option.map_some]

/-- Objects are read again if the values of their members are. -/
theorem reads_object {members : List (JsonText × Json)}
    (named : ∀ member ∈ members, member.1.isSome) (each : ∀ member ∈ members, member.2.Reads) :
    (object members).Reads := by
  intro level bound rest ends room
  rw [renderAt] at room ⊢
  cases members with
  | nil =>
      rw [renderMembers, enclose]
      show readValue (bound + 1) ('\x7b' :: '\x7d' :: rest) = _
      rw [readValue, skipBlanks_cons (by decide)]
      rfl
  | cons member members =>
      have inner := readMembers_renderMembers (List.cons_ne_nil member members) named each
        (level + 1) bound
      obtain ⟨name, value⟩ := member
      obtain ⟨name, rfl⟩ := Option.isSome_iff_exists.mp (named _ List.mem_cons_self)
      rw [renderMembers] at inner
      rw [renderMembers, toList_enclose] at room ⊢
      simp only [List.length_append, String.reduceToList, List.length_cons, List.length_nil] at room
      replace inner := inner (by omega) level rest
      obtain ⟨others, spelled⟩ := exists_listed_eq (level + 1)
        (renderText (some name) ++ ": " ++ value.renderAt (level + 1))
        (renderMembers (level + 1) members)
      rw [toList_member, List.cons_append] at spelled
      rw [spelled] at inner ⊢
      simp only [String.reduceToList, List.cons_append, List.append_assoc,
        List.nil_append] at inner ⊢
      rw [readValue_members (skipBlanks_newLine_cons (by decide) _ _) (by decide), inner,
        Option.map_some]

/-- Every proper value is read again as it was printed. -/
theorem Proper.reads {json : Json} (proper : json.Proper) : json.Reads := by
  induction proper with
  | null =>
      intro level bound rest ends room
      rw [renderAt]
      show readValue (bound + 1) ('n' :: 'u' :: 'l' :: 'l' :: rest) = _
      rw [readValue, skipBlanks_cons (by decide)]
      rfl
  | boolean value =>
      intro level bound rest ends room
      cases value with
      | true =>
          rw [renderAt]
          show readValue (bound + 1) ('t' :: 'r' :: 'u' :: 'e' :: rest) = _
          rw [readValue, skipBlanks_cons (by decide)]
          rfl
      | false =>
          rw [renderAt]
          show readValue (bound + 1) ('f' :: 'a' :: 'l' :: 's' :: 'e' :: rest) = _
          rw [readValue, skipBlanks_cons (by decide)]
          rfl
  | integer small => exact reads_integer small
  | string content => exact reads_ofString content
  | array each ih => exact reads_array each ih
  | object named each ih => exact reads_object named ih

/-- A document that is written is read back. -/
theorem Proper.read?_render {json : Json} (proper : json.Proper) :
    read? json.render = some json := by
  have read := proper.reads 0 (2 * json.render.toList.length + 1) []
    (fun c absent => by simp at absent) (by rw [render]; omega)
  rw [← render, List.append_nil] at read
  simp only [read?, read]
  rfl


/-! ## Dictionaries -/

/-- Collecting the entries of a dictionary gives the dictionary. -/
theorem ofList_toList {α : Type} (entries : Std.ExtTreeMap String α) :
    Std.ExtTreeMap.ofList entries.toList = entries := by
  refine Std.ExtTreeMap.ext_getElem? fun name => ?_
  cases found : entries[name]? with
  | some value =>
      exact Std.ExtTreeMap.getElem?_ofList_of_mem Std.ReflCmp.compare_self
        Std.ExtTreeMap.distinct_keys_toList
        (Std.ExtTreeMap.mem_toList_iff_getElem?_eq_some.mpr found)
  | none =>
      refine Std.ExtTreeMap.getElem?_ofList_of_contains_eq_false ?_
      rw [Bool.eq_false_iff]
      intro present
      obtain ⟨⟨_, value⟩, listed, rfl⟩ := List.mem_map.mp (List.contains_iff_mem.mp present)
      rw [Std.ExtTreeMap.mem_toList_iff_getElem?_eq_some.mp listed] at found
      cases found

/-- Members are decoded to the entries that they encode. -/
theorem mapM_member? {α : Type} {encode : α → Json} {decode : Decoder α}
    {entries : List (String × α)}
    (decodes : ∀ entry ∈ entries, decode (encode entry.2) = some entry.2) :
    (entries.map fun entry => (some entry.1, encode entry.2)).mapM (member? decode) =
      some entries := by
  induction entries with
  | nil => rfl
  | cons entry entries ih =>
      rw [List.forall_mem_cons] at decodes
      rw [List.map_cons, List.mapM_cons, ih decodes.2]
      simp [member?, decodes.1]

/-- A dictionary is decoded from the object that encodes it. -/
theorem dictionary?_ofDictionary {α : Type} {encode : α → Json} {decode : Decoder α}
    {entries : Std.ExtTreeMap String α}
    (decodes : ∀ entry ∈ entries.toList, decode (encode entry.2) = some entry.2) :
    dictionary? decode (ofDictionary encode entries) = some entries := by
  rw [ofDictionary, dictionary?, mapM_member? decodes, Option.map_some, ofList_toList]

/-- What goes for the values of a dictionary and for further entries goes for both together. -/
theorem forall_insertMany {α : Type} {holds : α → Prop} {dictionary : Std.ExtTreeMap String α}
    {entries : List (String × α)}
    (before : ∀ (name : String) (value : α), dictionary[name]? = some value → holds value)
    (each : ∀ entry ∈ entries, holds entry.2) (name : String) (value : α)
    (found : (dictionary.insertMany entries)[name]? = some value) : holds value := by
  induction entries generalizing dictionary with
  | nil =>
      rw [Std.ExtTreeMap.insertMany_nil] at found
      exact before name value found
  | cons entry entries ih =>
      rw [List.forall_mem_cons] at each
      rw [Std.ExtTreeMap.insertMany_cons] at found
      refine ih (fun name value found => ?_) each.2 found
      rw [Std.ExtTreeMap.getElem?_insert] at found
      split at found
      · exact Option.some.inj found ▸ each.1
      · exact before name value found

/-- What goes for all values that a decoder reads goes for the entries it reads. -/
theorem forall_mapM_member? {α : Type} {holds : α → Prop} {decode : Decoder α}
    (sound : ∀ json value, decode json = some value → holds value)
    {members : List (JsonText × Json)} {entries : List (String × α)}
    (read : members.mapM (member? decode) = some entries) : ∀ entry ∈ entries, holds entry.2 := by
  induction members generalizing entries with
  | nil =>
      obtain rfl := Option.some.inj read
      exact List.forall_mem_nil _
  | cons first members ih =>
      simp only [List.mapM_cons, member?, Option.bind_eq_bind, Option.bind_eq_some_iff,
        Option.pure_def, Option.some.injEq] at read
      obtain ⟨entry, ⟨name, -, value, decoded, rfl⟩, others, listed, rfl⟩ := read
      exact List.forall_mem_cons.mpr ⟨sound _ _ decoded, ih listed⟩

/-- What goes for all values that a decoder reads goes for the values of a dictionary of them. -/
theorem forall_dictionary? {α : Type} {holds : α → Prop} {decode : Decoder α}
    (sound : ∀ json value, decode json = some value → holds value) {json : Json}
    {entries : Std.ExtTreeMap String α} (read : dictionary? decode json = some entries)
    (name : String) (value : α) (found : entries[name]? = some value) : holds value := by
  cases json with
  | object members =>
      obtain ⟨listed, each, rfl⟩ := Option.map_eq_some_iff.mp read
      rw [Std.ExtTreeMap.ofList_eq_insertMany_empty] at found
      exact forall_insertMany (by simp) (forall_mapM_member? sound each) name value found
  | _ => cases read

/-- A dictionary of proper values is proper. -/
theorem proper_ofDictionary {α : Type} {encode : α → Json} {entries : Std.ExtTreeMap String α}
    (proper : ∀ entry ∈ entries.toList, (encode entry.2).Proper) :
    (ofDictionary encode entries).Proper := by
  refine .object (fun member listed => ?_) fun member listed => ?_
  all_goals obtain ⟨entry, inEntries, rfl⟩ := List.mem_map.mp listed
  · rfl
  · exact proper entry inEntries

end Json

namespace Counts

/-- Every count is a number that scripts have. -/
def InRange (counts : Counts) : Prop :=
  ∀ channel command, Text.minNumber ≤ counts.count channel command ∧
    counts.count channel command ≤ Text.maxNumber

/-- Counts in range are numbers that can be read again. -/
theorem InRange.entries {counts : Counts} (inRange : counts.InRange) :
    ∀ channel ∈ counts.toList, ∀ command ∈ channel.2.toList,
      Text.minNumber ≤ command.2 ∧ command.2 ≤ Text.maxNumber := by
  intro channel inCounts command inChannel
  have outer := Std.ExtTreeMap.mem_toList_iff_getElem?_eq_some.mp inCounts
  have inner := Std.ExtTreeMap.mem_toList_iff_getElem?_eq_some.mp inChannel
  rw [← Std.ExtTreeMap.get?_eq_getElem?] at outer inner
  have value : counts.count channel.1 command.1 = command.2 := by
    rw [count, outer, Option.getD_some, inner, Option.getD_some]
  rw [← value]
  exact inRange channel.1 command.1

/-- Counts are in range if all their entries are. -/
theorem inRange_of_entries {counts : Counts}
    (each : ∀ (channel : String) (commands : Std.ExtTreeMap String Int),
      counts[channel]? = some commands → ∀ (command : String) (value : Int),
        commands[command]? = some value → Text.minNumber ≤ value ∧ value ≤ Text.maxNumber) :
    counts.InRange := by
  intro channel command
  have zero : Text.minNumber ≤ 0 ∧ 0 ≤ Text.maxNumber := by
    decide
  rw [count, Std.ExtTreeMap.get?_eq_getElem?, Std.ExtTreeMap.get?_eq_getElem?]
  cases found : counts[channel]? with
  | none => simpa using zero
  | some commands =>
      cases listed : commands[command]? with
      | none => simpa [listed] using zero
      | some value => simpa [listed] using each channel commands found command value listed

/-- Counts that are read are in range. -/
theorem inRange_of_read? {document : String} {counts : Counts}
    (read : read? document = some counts) : counts.InRange := by
  obtain ⟨json, -, decoded⟩ := Option.bind_eq_some_iff.mp read
  refine inRange_of_entries (Json.forall_dictionary? (fun json commands => ?_) decoded)
  refine Json.forall_dictionary? fun json value integer => ?_
  cases json with
  | integer number =>
      rw [Json.integerIn?] at integer
      split at integer
      · exact Option.some.inj integer ▸ ‹_›
      · cases integer
  | _ => cases integer

/-- Counts that are written are read back. -/
theorem read?_render {counts : Counts} (inRange : counts.InRange) :
    read? counts.render = some counts := by
  have proper : counts.toJson.Proper := by
    refine Json.proper_ofDictionary fun channel inCounts => ?_
    refine Json.proper_ofDictionary fun command inChannel => .integer ?_
    have := inRange.entries channel inCounts command inChannel
    simp only [Text.minNumber, Text.maxNumber, Text.maxSize] at this ⊢
    omega
  rw [read?, render, proper.read?_render, Option.bind_some]
  refine Json.dictionary?_ofDictionary fun channel inCounts => ?_
  refine Json.dictionary?_ofDictionary fun command inChannel => ?_
  rw [Json.integerIn?, if_pos (inRange.entries channel inCounts command inChannel)]

end Counts

end ChatScript
