import ChatScript.Json
import ChatScript.Text.Decimal

/-!
# Reading JSON

A strict reader: a document is one value with blanks around it and nothing else. Texts may not
contain raw control characters, numbers have no leading zeros, and there are no extensions.
-/

namespace ChatScript.Json

/-- The text without the blanks at its front. -/
def skipBlanks (cs : List Char) : List Char :=
  cs.dropWhile fun c => c == ' ' || c == '\n' || c == '\t' || c == '\r'

/-- The value of a hexadecimal digit. -/
def hexDigit? (c : Char) : Option Nat :=
  if c.isDigit then some (c.toNat - '0'.toNat)
  else if 'a' ≤ c ∧ c ≤ 'f' then some (c.toNat - 'a'.toNat + 10)
  else if 'A' ≤ c ∧ c ≤ 'F' then some (c.toNat - 'A'.toNat + 10)
  else none

/-- The code written by four hexadecimal digits. -/
def hexCode? (a b c d : Char) : Option Nat := do
  let a ← hexDigit? a
  let b ← hexDigit? b
  let c ← hexDigit? c
  let d ← hexDigit? d
  pure (((a * 16 + b) * 16 + c) * 16 + d)

/-- The character that a one-letter escape stands for. -/
def simpleEscape? (c : Char) : Option Char :=
  if c = '"' ∨ c = '\\' ∨ c = '/' then some c
  else if c = 'b' then some '\x08'
  else if c = 'f' then some '\x0c'
  else if c = 'n' then some '\n'
  else if c = 'r' then some '\r'
  else if c = 't' then some '\t'
  else none

/-- What a JSON text is made of: characters, and halves of surrogate pairs written as escapes. -/
inductive Atom where
  | char (c : Char)
  | half (code : Nat)

/-- The atom that an escaped code stands for. -/
def Atom.ofCode (code : Nat) : Atom :=
  if 0xD800 ≤ code ∧ code < 0xE000 then .half code else .char (Char.ofNat code)

/-- The character of a surrogate pair, if the two halves make one. -/
def pairChar? (high low : Nat) : Option Char :=
  if 0xD800 ≤ high ∧ high < 0xDC00 ∧ 0xDC00 ≤ low ∧ low < 0xE000 then
    some (Char.ofNat (0x10000 + (high - 0xD800) * 0x400 + (low - 0xDC00)))
  else none

/-- The characters of a text, if every half of a surrogate pair stands next to its other half. -/
def joinAtoms : List Atom → Option (List Char)
  | [] => some []
  | .char c :: atoms => (joinAtoms atoms).map (c :: ·)
  | .half high :: .half low :: atoms => do
    let c ← pairChar? high low
    let cs ← joinAtoms atoms
    pure (c :: cs)
  | .half _ :: _ => none

/-- Reads a text from behind its opening quote up to and including its closing quote. -/
def readAtoms : List Char → Option (List Atom × List Char)
  | [] => none
  | '"' :: rest => some ([], rest)
  | '\\' :: 'u' :: a :: b :: c :: d :: rest => do
    let code ← hexCode? a b c d
    let (atoms, rest) ← readAtoms rest
    pure (.ofCode code :: atoms, rest)
  | '\\' :: c :: rest => do
    let c ← simpleEscape? c
    let (atoms, rest) ← readAtoms rest
    pure (.char c :: atoms, rest)
  | c :: rest =>
    if c.toNat < 0x20 ∨ c = '\\' then none
    else do
      let (atoms, rest) ← readAtoms rest
      pure (.char c :: atoms, rest)

/-- Reads a text from behind its opening quote. -/
def readText (cs : List Char) : Option (JsonText × List Char) :=
  (readAtoms cs).map fun read => ((joinAtoms read.1).map String.ofList, read.2)

/-- Reads a run of at least one digit. -/
def readDigits (cs : List Char) : Option (List Char × List Char) :=
  match cs.takeWhile Char.isDigit with
  | [] => none
  | digits => some (digits, cs.dropWhile Char.isDigit)

/-- Reads the whole part of a number, which starts with a zero only if it is zero. There is no
number for a part that is too great to be a size. -/
def readWhole : List Char → Option (Option Nat × List Char)
  | '0' :: rest => some (some 0, rest)
  | cs => (readDigits cs).map fun read => (Text.readUpTo? Text.maxSize read.1, read.2)

/-- Passes over the fraction of a number; says whether there was one. -/
def skipFraction : List Char → Option (Bool × List Char)
  | '.' :: cs => (readDigits cs).map fun read => (true, read.2)
  | cs => some (false, cs)

/-- The text without the sign at its front. -/
def skipSign : List Char → List Char
  | '+' :: cs => cs
  | '-' :: cs => cs
  | cs => cs

/-- Passes over the exponent of a number; says whether there was one. -/
def skipExponent : List Char → Option (Bool × List Char)
  | 'e' :: cs => (readDigits (skipSign cs)).map fun read => (true, read.2)
  | 'E' :: cs => (readDigits (skipSign cs)).map fun read => (true, read.2)
  | cs => some (false, cs)

/-- The integer with the given sign, of which minus zero is none. -/
def signed (negative : Bool) (whole : Nat) : Json :=
  if negative then if whole = 0 then .inexact else .integer (-whole) else .integer whole

/-- Reads a number without its sign. -/
def readUnsigned (negative : Bool) (cs : List Char) : Option (Json × List Char) := do
  let (whole, cs) ← readWhole cs
  let (fraction, cs) ← skipFraction cs
  let (exponent, cs) ← skipExponent cs
  match whole, fraction || exponent with
  | some whole, false => pure (signed negative whole, cs)
  | _, _ => pure (.inexact, cs)

/-- Reads a number. -/
def readNumber : List Char → Option (Json × List Char)
  | '-' :: cs => readUnsigned true cs
  | cs => readUnsigned false cs

mutual

/-- Reads a value. Every step inwards or onwards lowers the bound. -/
def readValue : (bound : Nat) → List Char → Option (Json × List Char)
  | 0, _ => none
  | bound + 1, cs =>
    match skipBlanks cs with
    | 'n' :: 'u' :: 'l' :: 'l' :: rest => some (.null, rest)
    | 't' :: 'r' :: 'u' :: 'e' :: rest => some (.boolean true, rest)
    | 'f' :: 'a' :: 'l' :: 's' :: 'e' :: rest => some (.boolean false, rest)
    | '"' :: rest => (readText rest).map fun read => (.text read.1, read.2)
    | '[' :: rest =>
      match skipBlanks rest with
      | ']' :: rest => some (.array [], rest)
      | rest => (readItems bound rest).map fun read => (.array read.1, read.2)
    | '\x7b' :: rest =>
      match skipBlanks rest with
      | '\x7d' :: rest => some (.object [], rest)
      | rest => (readMembers bound rest).map fun read => (.object read.1, read.2)
    | cs => readNumber cs

/-- Reads the items of an array up to and including its closing bracket. -/
def readItems : (bound : Nat) → List Char → Option (List Json × List Char)
  | 0, _ => none
  | bound + 1, cs => do
    let (item, cs) ← readValue bound cs
    match skipBlanks cs with
    | ',' :: rest => (readItems bound rest).map fun read => (item :: read.1, read.2)
    | ']' :: rest => some ([item], rest)
    | _ => none

/-- Reads the members of an object up to and including its closing brace. -/
def readMembers : (bound : Nat) → List Char → Option (List (JsonText × Json) × List Char)
  | 0, _ => none
  | bound + 1, cs =>
    match skipBlanks cs with
    | '"' :: rest => do
      let (name, cs) ← readText rest
      match skipBlanks cs with
      | ':' :: rest =>
        let (value, cs) ← readValue bound rest
        match skipBlanks cs with
        | ',' :: rest => (readMembers bound rest).map fun read => ((name, value) :: read.1, read.2)
        | '\x7d' :: rest => some ([(name, value)], rest)
        | _ => none
      | _ => none
    | _ => none

end

/-- Reads a document. Every character admits at most two steps, so the bound is never met. -/
def read? (document : String) : Option Json :=
  let cs := document.toList
  match readValue (2 * cs.length + 2) cs with
  | some (value, rest) => if skipBlanks rest = [] then some value else none
  | none => none

end ChatScript.Json
