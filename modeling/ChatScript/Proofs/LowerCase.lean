import ChatScript.Text.Lowercase

/-! # Lower case

A character is small if it has no lower-case form but itself. The lower-case forms of the capitals
in the table are small, since no run of capitals is mapped onto another one
(`CapitalRun.avoids_of_mem`), so the lower-case form of a text is a fixed point of lower-casing
(`lower_lower`).
-/

namespace ChatScript.Text

/-! ## The table of capitals -/

/-- All capitals: those of the table, and the capital I with a dot above. -/
def capitals : List CapitalRun :=
  ⟨0x130, 0x130, 1, 0⟩ :: capitalRuns

/-- The lower-case forms of one run avoid the capitals of another: they lie in front of them or
behind them, or between those of a run that takes every other code point. -/
def CapitalRun.avoids (run other : CapitalRun) : Bool :=
  Nat.blt (run.last + run.shift).toNat other.first ||
    Nat.blt other.last (run.first + run.shift).toNat ||
    (run.step == 2 || run.first == run.last) && other.step == 2 &&
      (run.first + run.shift - other.first) % 2 == 1

/-- The lower-case forms of every run avoid all capitals. -/
theorem CapitalRun.avoids_of_mem :
    ∀ run ∈ capitalRuns, ∀ other ∈ capitals, run.avoids other = true := by
  have checked : (capitalRuns.all fun run => capitals.all run.avoids) = true := by
    decide +kernel
  simpa only [List.all_eq_true] using checked

/-- A lower-case form of a run that avoids another one is no capital of it. -/
theorem CapitalRun.contains_eq_false_of_avoids {run other : CapitalRun} {c d : Char}
    (capital : run.contains c = true) (form : (d.toNat : Int) = c.toNat + run.shift)
    (apart : run.avoids other = true) : other.contains d = false := by
  rw [← Bool.not_eq_true]
  intro inside
  simp only [contains, avoids, Bool.and_eq_true, Bool.or_eq_true, decide_eq_true_eq,
    Nat.blt_eq, beq_iff_eq] at capital inside apart
  obtain ⟨⟨above, below⟩, aligned⟩ := capital
  obtain ⟨⟨above', below'⟩, aligned'⟩ := inside
  rcases apart with (before | behind) | ⟨⟨step, step'⟩, odd⟩
  · omega
  · omega
  · rw [step'] at aligned'
    rcases step with step | single
    · rw [step] at aligned
      omega
    · omega

/-! ## Small characters -/

/-- A character that is no capital. -/
def IsSmall (c : Char) : Prop :=
  ∀ run ∈ capitals, run.contains c = false

instance (c : Char) : Decidable (IsSmall c) :=
  decidable_of_iff (capitals.all fun run => !run.contains c) <| by
    simp [IsSmall, List.all_eq_true]

/-- The capitals of ASCII. -/
def asciiRun : CapitalRun :=
  ⟨0x41, 0x5A, 1, 0x20⟩

/-- In ASCII, only the 26 capitals are not small. -/
theorem isSmall_iff_of_ascii {c : Char} (ascii : c.toNat < 0x80) :
    IsSmall c ↔ asciiRun.contains c = false := by
  constructor
  · intro small
    exact small asciiRun (.tail _ (.head _))
  · intro outside run capital
    have checked : (capitalRuns.tail.all fun run => 0x80 ≤ run.first) = true := by
      decide +kernel
    rw [List.all_eq_true] at checked
    have beyond (run : CapitalRun) (far : 0x80 ≤ run.first) : run.contains c = false := by
      have short : ¬run.first ≤ c.toNat := by omega
      simp [CapitalRun.contains, short]
    rcases capital with _ | ⟨_, _ | ⟨_, later⟩⟩
    · exact beyond _ (by decide)
    · exact outside
    · exact beyond run (of_decide_eq_true (checked run later))

/-- Lower-casing within ASCII leads to small characters and keeps them. -/
theorem isSmall_toLower {c : Char} (ascii : c.toNat < 0x80) :
    IsSmall c.toLower ∧ (IsSmall c → c.toLower = c) := by
  have checked : ∀ code < 0x80, (Char.ofNat code).toLower.toNat < 0x80 ∧
      asciiRun.contains (Char.ofNat code).toLower = false ∧
      (asciiRun.contains (Char.ofNat code) = false →
        (Char.ofNat code).toLower = Char.ofNat code) := by
    decide +kernel
  have kept := checked c.toNat ascii
  rw [Char.ofNat_toNat] at kept
  exact ⟨(isSmall_iff_of_ascii kept.1).mpr kept.2.1,
    fun small => kept.2.2 ((isSmall_iff_of_ascii ascii).mp small)⟩

/-- A character is small if no run of the table has it, and if it is not the capital I with a dot
above. -/
theorem isSmall_iff {c : Char} :
    IsSmall c ↔ c ≠ '\u0130' ∧ capitalRuns.find? (·.contains c) = none := by
  have dotted : CapitalRun.contains ⟨0x130, 0x130, 1, 0⟩ c = false ↔ c ≠ '\u0130' := by
    have code : ('\u0130' : Char).toNat = 0x130 := rfl
    rw [Bool.eq_false_iff, ne_eq, ne_eq, ← Char.toNat_inj, code, CapitalRun.contains]
    simp only [Nat.mod_one, beq_self_eq_true, Bool.and_true, Bool.and_eq_true, decide_eq_true_eq]
    omega
  simp only [IsSmall, capitals, List.forall_mem_cons, dotted, List.find?_eq_none, Bool.not_eq_true]

theorem lowerChar_of_isSmall {c : Char} (small : IsSmall c) : lowerChar c = [c] := by
  obtain ⟨plain, unlisted⟩ := isSmall_iff.mp small
  by_cases ascii : c.toNat < 0x80
  · rw [lowerChar, if_pos ascii, (isSmall_toLower ascii).2 small]
  · rw [lowerChar, if_neg ascii, if_neg plain, unlisted]

/-- A shifted code point is that of its character, unless there is none. -/
theorem toNat_ofNat_toNat {code : Int} (proper : Char.ofNat code.toNat ≠ '\x00') :
    ((Char.ofNat code.toNat).toNat : Int) = code := by
  by_cases valid : code.toNat.isValidChar
  · have same : (Char.ofNat code.toNat).toNat = code.toNat := by
      rw [Char.ofNat, dif_pos valid]
      rfl
    have positive : code.toNat ≠ 0 := by
      intro zero
      rw [zero] at proper
      exact proper rfl
    omega
  · rw [Char.ofNat, dif_neg valid] at proper
    exact absurd rfl proper

/-- Every lower-case form is small. -/
theorem isSmall_of_mem_lowerChar {c d : Char} (member : d ∈ lowerChar c) : IsSmall d := by
  rw [lowerChar] at member
  split at member
  · next ascii =>
    rw [List.mem_singleton.mp member]
    exact (isSmall_toLower ascii).1
  split at member
  · have dotted : IsSmall 'i' ∧ IsSmall '\u0307' := by
      decide +kernel
    simp only [List.mem_cons, List.not_mem_nil, or_false] at member
    rcases member with rfl | rfl
    · exact dotted.1
    · exact dotted.2
  · next plain =>
    cases found : capitalRuns.find? (·.contains c) with
    | none =>
        simp only [found, List.mem_singleton] at member
        subst member
        exact isSmall_iff.mpr ⟨plain, found⟩
    | some run =>
        simp only [found, List.mem_singleton] at member
        subst member
        by_cases proper : Char.ofNat (c.toNat + run.shift).toNat = '\x00'
        · rw [proper]
          decide +kernel
        · intro other capital
          have contained : run.contains c = true := by
            simpa using List.find?_some found
          exact CapitalRun.contains_eq_false_of_avoids contained (toNat_ofNat_toNat proper)
            (CapitalRun.avoids_of_mem run (List.mem_of_find?_eq_some found) other capital)

/-! ## Texts -/

/-- A text of small characters is its own lower-case form. -/
theorem lowerFrom_of_isSmall {before cs : List Char} (small : ∀ c ∈ cs, IsSmall c) :
    lowerFrom before cs = cs := by
  induction cs generalizing before with
  | nil => rfl
  | cons c cs ih =>
      rw [List.forall_mem_cons] at small
      have noSigma : c ≠ '\u03A3' := by
        rintro rfl
        exact absurd small.1 (by decide +kernel)
      rw [lowerFrom, if_neg noSigma, lowerChar_of_isSmall small.1, ih small.2]
      rfl

/-- The lower-case form of a text has small characters alone, wherever it is begun. -/
theorem isSmall_of_mem_lowerFrom {before cs : List Char} {d : Char}
    (member : d ∈ lowerFrom before cs) : IsSmall d := by
  induction cs generalizing before with
  | nil => cases member
  | cons c cs ih =>
      rw [lowerFrom, List.mem_append] at member
      rcases member with first | later
      · split at first
        · have sigmas : IsSmall '\u03C2' ∧ IsSmall '\u03C3' := by
            decide +kernel
          split at first
          · exact List.mem_singleton.mp first ▸ sigmas.1
          · exact List.mem_singleton.mp first ▸ sigmas.2
        · exact isSmall_of_mem_lowerChar first
      · exact ih later

/-- Lower-casing a text twice is lower-casing it once. -/
theorem lower_lower (cs : List Char) : lower (lower cs) = lower cs :=
  lowerFrom_of_isSmall fun _ => isSmall_of_mem_lowerFrom

end ChatScript.Text
