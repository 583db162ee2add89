import ChatScript.Text.CharClass

/-!
# Splitting and trimming text

Texts are cut into the stretches between break characters. Words are the non-empty stretches
between blanks; lines are the stretches between newlines, where the stretch after a final newline
is no line of its own and a carriage return directly before a newline belongs to the line break.
-/

namespace ChatScript.Text

/-- The stretches between the characters that satisfy `isBreak`, empty ones included. -/
def stretches (isBreak : Char → Bool) : List Char → List (List Char)
  | [] => [[]]
  | c :: cs =>
    if isBreak c then [] :: stretches isBreak cs
    else
      match stretches isBreak cs with
      | [] => [[c]]
      | first :: others => (c :: first) :: others

/-- The text without the characters satisfying `drop` at its end. -/
def dropAtEnd (drop : Char → Bool) (cs : List Char) : List Char :=
  (cs.reverse.dropWhile drop).reverse

/-- The text without the blanks at both of its ends. -/
def trim (cs : List Char) : List Char :=
  dropAtEnd isBlank (cs.dropWhile isBlank)

/-- The words of a text: its non-empty stretches between blanks. -/
def words (cs : List Char) : List (List Char) :=
  (stretches isBlank cs).filter fun word => !word.isEmpty

/-- A line without the carriage return that belongs to its line break. -/
def dropReturn (line : List Char) : List Char :=
  if line.getLast? = some '\r' then line.dropLast else line

/-- Turns the stretches between newlines into lines. Only a stretch that ends in a newline loses
its carriage return, and an empty stretch after the last newline is no line. -/
def linesOfStretches : List (List Char) → List (List Char)
  | [] => []
  | [last] => if last.isEmpty then [] else [last]
  | line :: others => dropReturn line :: linesOfStretches others

/-- The lines of a text. -/
def lines (cs : List Char) : List (List Char) :=
  linesOfStretches (stretches (· == '\n') cs)

/-- What follows `mark` in a text that starts with it. -/
def after? : (mark text : List Char) → Option (List Char)
  | [], text => some text
  | _ :: _, [] => none
  | m :: mark, c :: text => if m = c then after? mark text else none

/-- The parts of a text before and after its first `mark`. -/
def cutAt? (mark : Char) : List Char → Option (List Char × List Char)
  | [] => none
  | c :: cs =>
    if c = mark then some ([], cs)
    else (cutAt? mark cs).map fun parts => (c :: parts.1, parts.2)

theorem after?_eq_some_iff {mark text rest : List Char} :
    after? mark text = some rest ↔ text = mark ++ rest := by
  induction mark generalizing text with
  | nil => simp [after?, eq_comm]
  | cons m mark ih =>
    cases text with
    | nil => simp [after?]
    | cons c text =>
      by_cases same : m = c
      · subst same
        simp [after?, ih]
      · simp [after?, same, Ne.symm same]

/-- A text is cut at the first mark in it. -/
theorem cutAt?_append {mark : Char} {front : List Char} (absent : mark ∉ front)
    (back : List Char) : cutAt? mark (front ++ mark :: back) = some (front, back) := by
  induction front with
  | nil => simp [cutAt?]
  | cons c front ih =>
      rw [List.mem_cons, not_or] at absent
      rw [List.cons_append, cutAt?, if_neg (Ne.symm absent.1), ih absent.2]
      rfl

/-- A text that does not contain a mark has no break at it. -/
theorem beq_eq_false_of_not_mem {mark : Char} {cs : List Char} (absent : mark ∉ cs) :
    ∀ c ∈ cs, (c == mark) = false := by
  intro c member
  rw [beq_eq_false_iff_ne]
  rintro rfl
  exact absent member

/-- A text without breaks is one stretch. -/
theorem stretches_of_no_break {isBreak : Char → Bool} {cs : List Char}
    (whole : ∀ c ∈ cs, isBreak c = false) : stretches isBreak cs = [cs] := by
  induction cs with
  | nil => rfl
  | cons c cs ih =>
      rw [List.forall_mem_cons] at whole
      rw [stretches, whole.1, ih whole.2]
      rfl

/-- The first break ends the first stretch. -/
theorem stretches_append_break {isBreak : Char → Bool} {front : List Char} {c : Char}
    (whole : ∀ d ∈ front, isBreak d = false) (ends : isBreak c = true) (back : List Char) :
    stretches isBreak (front ++ c :: back) = front :: stretches isBreak back := by
  induction front with
  | nil => rw [List.nil_append, stretches, if_pos ends]
  | cons d front ih =>
      rw [List.forall_mem_cons] at whole
      rw [List.cons_append, stretches, whole.1, ih whole.2]
      rfl

/-- No stretch has a break in it. -/
theorem whole_of_mem_stretches {isBreak : Char → Bool} {cs stretch : List Char}
    (member : stretch ∈ stretches isBreak cs) : ∀ c ∈ stretch, isBreak c = false := by
  induction cs generalizing stretch with
  | nil =>
      rw [stretches, List.mem_singleton] at member
      simp [member]
  | cons c cs ih =>
      rw [stretches] at member
      split at member
      · rcases List.mem_cons.mp member with rfl | later
        · simp
        · exact ih later
      · rename_i ordinary
        split at member
        · rw [List.mem_singleton] at member
          simpa [member] using ordinary
        · rename_i first others behind
          rw [behind] at ih
          rcases List.mem_cons.mp member with rfl | later
          · exact List.forall_mem_cons.mpr
              ⟨Bool.eq_false_iff.mpr ordinary, ih List.mem_cons_self⟩
          · exact ih (List.mem_cons_of_mem _ later)

/-- What stands behind the last break is the last stretch, and not the only one. -/
theorem exists_stretches_append {isBreak : Char → Bool} {c : Char} (ends : isBreak c = true)
    {back : List Char} (whole : ∀ d ∈ back, isBreak d = false) (front : List Char) :
    ∃ first others, stretches isBreak (front ++ c :: back) = first :: others ++ [back] := by
  induction front with
  | nil =>
      refine ⟨[], [], ?_⟩
      rw [List.nil_append, stretches, if_pos ends, stretches_of_no_break whole]
      rfl
  | cons d front ih =>
      obtain ⟨first, others, split⟩ := ih
      rw [List.cons_append, stretches, split]
      cases isBreak d with
      | true => exact ⟨[], first :: others, rfl⟩
      | false => exact ⟨d :: first, others, rfl⟩

/-- A text that is a single word. -/
structure IsWord (cs : List Char) : Prop where
  nonempty : cs ≠ []
  whole : ∀ c ∈ cs, isBlank c = false

instance (cs : List Char) : Decidable (IsWord cs) :=
  decidable_of_iff ((!cs.isEmpty && cs.all fun c => !isBlank c) = true) <| by
    simpa using ⟨fun checked => ⟨checked.1, checked.2⟩,
      fun isWord => ⟨isWord.nonempty, isWord.whole⟩⟩

theorem IsWord.words_eq {word : List Char} (isWord : IsWord word) : words word = [word] := by
  rw [words, stretches_of_no_break isWord.whole]
  simp [isWord.nonempty]

/-- A blank ends the first word. -/
theorem IsWord.words_append_blank {word : List Char} (isWord : IsWord word) {c : Char}
    (ends : isBlank c = true) (back : List Char) :
    words (word ++ c :: back) = word :: words back := by
  rw [words, stretches_append_break isWord.whole ends, List.filter_cons_of_pos, words]
  simp [isWord.nonempty]

/-- Nothing is dropped from the front of a text if its first character stays. -/
theorem dropWhile_of_head {drop : Char → Bool} {cs : List Char}
    (stays : ∀ c ∈ cs.head?, drop c = false) : cs.dropWhile drop = cs := by
  cases cs with
  | nil => rfl
  | cons c cs => exact List.dropWhile_cons_of_neg (by simp [stays c rfl])

/-- Trimming changes nothing about a text without blanks at its ends. -/
theorem trim_of_no_blank {cs : List Char} (front : ∀ c ∈ cs.head?, isBlank c = false)
    (back : ∀ c ∈ cs.getLast?, isBlank c = false) : trim cs = cs := by
  rw [← List.head?_reverse] at back
  rw [trim, dropWhile_of_head front, dropAtEnd, dropWhile_of_head back, List.reverse_reverse]

/-- Nothing is left of an end that is dropped as a whole. -/
theorem dropAtEnd_append_of_all {drop : Char → Bool} {back : List Char}
    (all : ∀ c ∈ back, drop c) (front : List Char) :
    dropAtEnd drop (front ++ back) = dropAtEnd drop front := by
  rw [dropAtEnd, List.reverse_append, List.dropWhile_append_of_pos (by simpa using all), dropAtEnd]

/-- Blanks in front of a text are trimmed. -/
theorem trim_indent {indent : List Char} (blank : ∀ c ∈ indent, isBlank c) (cs : List Char) :
    trim (indent ++ cs) = trim cs := by
  rw [trim, List.dropWhile_append_of_pos blank, trim]

/-- A blank in front of a text is trimmed. -/
theorem trim_cons_blank {c : Char} (blank : isBlank c = true) (cs : List Char) :
    trim (c :: cs) = trim cs :=
  trim_indent (List.forall_mem_singleton.mpr blank) cs

/-- Blanks behind a text are trimmed. -/
theorem trim_trail {trail : List Char} (blank : ∀ c ∈ trail, isBlank c) (cs : List Char) :
    trim (cs ++ trail) = trim cs := by
  by_cases empty : cs.dropWhile isBlank = []
  · have nothing : trail.dropWhile isBlank = [] := by
      simpa using @List.dropWhile_append_of_pos _ isBlank trail [] blank
    rw [trim, List.dropWhile_append, empty, trim, empty, nothing]
    rfl
  · rw [trim, List.dropWhile_append, if_neg (by simpa using empty), dropAtEnd_append_of_all blank,
      trim]

/-- A word has no blanks to be trimmed. -/
theorem IsWord.trim_eq {word : List Char} (isWord : IsWord word) : trim word = word :=
  trim_of_no_blank (fun c first => isWord.whole c (List.mem_of_mem_head? first))
    fun c last => isWord.whole c (List.mem_of_mem_getLast? last)

/-- The first newline ends the first line. -/
theorem lines_append_newline {line : List Char} (whole : '\n' ∉ line) (rest : List Char) :
    lines (line ++ '\n' :: rest) = dropReturn line :: lines rest := by
  have more : stretches (· == '\n') rest ≠ [] := by
    fun_cases stretches (· == '\n') rest <;> simp
  rw [lines, stretches_append_break (beq_eq_false_of_not_mem whole) rfl, lines]
  cases behind : stretches (· == '\n') rest with
  | nil => exact absurd behind more
  | cons next others => rfl

/-- A text without newlines is one line, unless it is empty. -/
theorem lines_of_no_newline {cs : List Char} (whole : '\n' ∉ cs) :
    lines cs = if cs.isEmpty then [] else [cs] := by
  rw [lines, stretches_of_no_break (beq_eq_false_of_not_mem whole), linesOfStretches]

end ChatScript.Text
