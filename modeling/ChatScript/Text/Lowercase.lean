import ChatScript.Text.CaseTable

/-!
# Lower-casing

Full lower-casing of a text. Two letters do not simply map to one code point: a capital I with a
dot above becomes two code points, and a capital sigma takes its final form at the end of a word.
-/

namespace ChatScript.Text

/-- Whether `c` is one of the capitals of the run. -/
def CapitalRun.contains (run : CapitalRun) (c : Char) : Bool :=
  run.first ≤ c.toNat && c.toNat ≤ run.last && (c.toNat - run.first) % run.step == 0

/-- The lower-case form of a single character, with no regard to its neighbours. -/
def lowerChar (c : Char) : List Char :=
  if c.toNat < 0x80 then [c.toLower]
  else if c = '\u0130' then ['i', '\u0307']
  else
    match capitalRuns.find? (·.contains c) with
    | some run => [Char.ofNat (c.toNat + run.shift).toNat]
    | none => [c]

/-- Whether the first character that is not case-ignorable exists and is cased. -/
def meetsCased (cs : List Char) : Bool :=
  match cs.dropWhile caseIgnorable.contains with
  | [] => false
  | c :: _ => casedLetters.contains c

/-- Lower-cases `cs`, where `before` holds the characters in front of it, nearest first. A capital
sigma that ends a word becomes the final sigma. -/
def lowerFrom (before : List Char) : List Char → List Char
  | [] => []
  | c :: cs =>
    (if c = '\u03A3' then
        if meetsCased before && !meetsCased cs then ['\u03C2'] else ['\u03C3']
      else lowerChar c) ++ lowerFrom (c :: before) cs

/-- The lower-case form of a text. -/
def lower (cs : List Char) : List Char :=
  lowerFrom [] cs

end ChatScript.Text
