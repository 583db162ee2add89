import ChatScript.Proofs.Stage
import ChatScript.Proofs.Templates

/-! # What a template sends

A template sends a single line: its own, in which every reference is replaced by the text of its
value (`Program.executeOn_ofTemplate`).

Which characters are replaced is said without fragments, on the line itself and from left to right
(`Rendered`): a run `$(...)` whose parenthesis is closed and whose body is a reference gives way to
a value, and anything else stays what it is. The fragments of a line put back together are the line
(`flatMap_verbatim_templateFragments`), and with values in the place of the references they are what
is rendered (`rendered_fill`). The texts between the references have no effects when they are
evaluated, so only the references are left to be evaluated (`map_evalAll_templatePart`).
-/

namespace ChatScript

/-- The tokens of the body make up the target of a reference, of at most 256 operators, groups,
calls and references. -/
def RefersTo (body : String) (value : Expr) : Prop :=
  ∃ size ≤ 256, Derives (.target value) ((tokenize body).map Token.kind) size

/-- `Rendered line references values text` says that the text is the line with the given values in
the place of the given references, which are those of the line from left to right. A run that is
closed but does not refer to anything stays as a whole, and so does every character that no closed
run begins with. -/
inductive Rendered : List Char → List Expr → List Value → List Char → Prop where
  | done : Rendered [] [] [] []
  | reference {inner body rest text reference references value values} :
      readBody 0 none inner = some (body, rest) → RefersTo (String.ofList body) reference →
      Rendered rest references values text →
      Rendered ('$' :: '(' :: inner) (reference :: references) (value :: values)
        (value.toText.toList ++ text)
  | unparsed {inner body rest text references values} :
      readBody 0 none inner = some (body, rest) →
      (∀ reference, ¬RefersTo (String.ofList body) reference) →
      Rendered rest references values text →
      Rendered ('$' :: '(' :: inner) references values ('$' :: '(' :: body ++ ')' :: text)
  | plain {c cs text references values} :
      (∀ inner, c :: cs = '$' :: '(' :: inner → readBody 0 none inner = none) →
      Rendered cs references values text → Rendered (c :: cs) references values (c :: text)

namespace Fragment

/-- The characters that a fragment of a template was read from. -/
def verbatim : Fragment → List Char
  | text content => content.toList
  | reference body => '$' :: '(' :: body.toList ++ [')']

/-- What a fragment refers to, if it is a reference that can be parsed. -/
def target? : Fragment → Option Expr
  | text _ => none
  | reference body => (embedded expression 1 body 0).toOption.map Prod.fst

/-- A fragment is parsed as what its body refers to. -/
theorem target?_eq_some_iff {body : String} {value : Expr} :
    (reference body).target? = some value ↔ RefersTo body value := by
  constructor
  · intro found
    rw [target?] at found
    cases parsed : embedded expression 1 body 0 with
    | error fault =>
        rw [parsed] at found
        cases found
    | ok result =>
        rw [parsed] at found
        cases found
        obtain ⟨size, derivation, counted, within⟩ :=
          embedded_derives (faithful_expressionAt _) parsed
        rw [counted, Nat.zero_add] at within
        exact ⟨size, within (Nat.zero_le _), derivation⟩
  · rintro ⟨size, small, derivation⟩
    rw [target?, embedded_of_derives derivation small]
    rfl

end Fragment

/-- A fragment that refers to nothing stands for its own characters. -/
theorem templatePart_eq (fragment : Fragment) :
    templatePart fragment =
      fragment.target?.getD (.literal (.text (String.ofList fragment.verbatim))) := by
  cases fragment with
  | text content => simp [templatePart, Fragment.target?, Fragment.verbatim]
  | reference body =>
      have written : String.ofList (Fragment.reference body).verbatim = "$(" ++ body ++ ")" := by
        rw [← String.toList_inj]
        simp [Fragment.verbatim]
      rw [templatePart, Fragment.target?, written]
      cases embedded expression 1 body 0 <;> rfl

/-- The fragments with the given values in the place of those that can be parsed as references. -/
def fill : List Fragment → List Value → List Char
  | [], _ => []
  | fragment :: fragments, values =>
    match fragment.target?, values with
    | some _, value :: values => value.toText.toList ++ fill fragments values
    | _, values => fragment.verbatim ++ fill fragments values

/-- The references among the fragments that can be parsed. -/
def targets (fragments : List Fragment) : List Expr :=
  fragments.filterMap Fragment.target?

section Filling

variable {fragment : Fragment} {reference : Expr}

theorem targets_of_none (unparsed : fragment.target? = none) (fragments : List Fragment) :
    targets (fragment :: fragments) = targets fragments :=
  List.filterMap_cons_none unparsed

theorem targets_of_some (refers : fragment.target? = some reference) (fragments : List Fragment) :
    targets (fragment :: fragments) = reference :: targets fragments :=
  List.filterMap_cons_some refers

theorem fill_of_none (unparsed : fragment.target? = none) (fragments : List Fragment)
    (values : List Value) :
    fill (fragment :: fragments) values = fragment.verbatim ++ fill fragments values := by
  simp [fill, unparsed]

theorem fill_of_some (refers : fragment.target? = some reference) (fragments : List Fragment)
    (value : Value) (values : List Value) :
    fill (fragment :: fragments) (value :: values) =
      value.toText.toList ++ fill fragments values := by
  simp [fill, refers]

end Filling

/-! ## Fragments of a line -/

section Lines

theorem flatMap_verbatim_prepend (cs : List Char) (spans : List Span) :
    ((Span.prepend cs spans).map Span.toFragment).flatMap Fragment.verbatim =
      cs ++ (spans.map Span.toFragment).flatMap Fragment.verbatim := by
  unfold Span.prepend
  split <;> simp [Span.toFragment, Fragment.verbatim]

theorem targets_prepend (cs : List Char) (spans : List Span) :
    targets ((Span.prepend cs spans).map Span.toFragment) =
      targets (spans.map Span.toFragment) := by
  unfold Span.prepend
  split
  · rw [List.map_cons, List.map_cons, targets_of_none rfl, targets_of_none rfl]
  · rw [List.map_cons, targets_of_none rfl]

theorem fill_prepend (cs : List Char) (spans : List Span) (values : List Value) :
    fill ((Span.prepend cs spans).map Span.toFragment) values =
      cs ++ fill (spans.map Span.toFragment) values := by
  unfold Span.prepend
  split <;> simp [fill, Span.toFragment, Fragment.target?, Fragment.verbatim]

/-- The fragments of a line put back together are the line. -/
theorem flatMap_verbatim_templateFragments (line : List Char) :
    (templateFragments line).flatMap Fragment.verbatim = line := by
  rw [templateFragments, Piece.join]
  fun_induction readTemplate line with
  | case1 => rfl
  | case2 inner unclosed ih =>
      rw [Span.ofPieces, flatMap_verbatim_prepend, ih, List.singleton_append]
  | case3 inner body rest closed ih =>
      rw [Span.ofPieces, List.map_cons, List.flatMap_cons, ih, readBody_eq_some closed]
      simp [Span.toFragment, Fragment.verbatim]
  | case4 c rest noReference ih =>
      rw [Span.ofPieces, flatMap_verbatim_prepend, ih, List.singleton_append]

/-- The fragments of a line, with values for the references that can be parsed, are what is
rendered. -/
theorem rendered_fill (line : List Char) (values : List Value)
    (enough : values.length = (targets (templateFragments line)).length) :
    Rendered line (targets (templateFragments line)) values
      (fill (templateFragments line) values) := by
  rw [templateFragments, Piece.join] at enough ⊢
  fun_induction readTemplate line generalizing values with
  | case1 =>
      obtain rfl := List.length_eq_zero_iff.mp enough
      exact .done
  | case2 inner unclosed ih =>
      rw [Span.ofPieces, targets_prepend] at enough ⊢
      rw [fill_prepend]
      refine .plain ?_ (ih values enough)
      rintro _ ⟨⟩
      exact unclosed
  | case3 inner body rest closed ih =>
      rw [Span.ofPieces, List.map_cons, Span.toFragment] at enough ⊢
      cases refers : (Fragment.reference (String.ofList body)).target? with
      | some reference =>
          rw [targets_of_some refers] at enough ⊢
          obtain ⟨value, others, rfl⟩ := List.exists_cons_of_length_eq_add_one enough
          rw [fill_of_some refers]
          exact .reference closed (Fragment.target?_eq_some_iff.mp refers)
            (ih others (Nat.succ.inj enough))
      | none =>
          rw [targets_of_none refers] at enough ⊢
          rw [fill_of_none refers, Fragment.verbatim, String.toList_ofList, List.append_assoc,
            List.singleton_append]
          refine .unparsed closed (fun reference isReference => ?_) (ih values enough)
          rw [Fragment.target?_eq_some_iff.mpr isReference] at refers
          cases refers
  | case4 c rest noReference ih =>
      rw [Span.ofPieces, targets_prepend] at enough ⊢
      rw [fill_prepend]
      refine .plain ?_ (ih values enough)
      rintro _ ⟨⟩
      exact (noReference _ rfl rfl).elim

/-- What a line refers to is settled by its characters, and so is its text once the references
have values. -/
theorem Rendered.unique {line : List Char} {references others : List Expr} {values : List Value}
    {text other : List Char} (rendered : Rendered line references values text)
    (again : Rendered line others values other) : references = others ∧ text = other := by
  induction rendered generalizing others other with
  | done =>
      cases again
      exact ⟨rfl, rfl⟩
  | reference closed refers _ ih =>
      cases again with
      | reference found isReference behind =>
          rw [closed] at found
          cases found
          obtain ⟨rfl, rfl⟩ := ih behind
          have same := Fragment.target?_eq_some_iff.mpr refers
          rw [Fragment.target?_eq_some_iff.mpr isReference] at same
          cases same
          exact ⟨rfl, rfl⟩
      | unparsed found fails behind =>
          rw [closed] at found
          cases found
          exact (fails _ refers).elim
      | plain unclosed behind =>
          rw [unclosed _ rfl] at closed
          cases closed
  | unparsed closed fails _ ih =>
      cases again with
      | reference found isReference behind =>
          rw [closed] at found
          cases found
          exact (fails _ isReference).elim
      | unparsed found _ behind =>
          rw [closed] at found
          cases found
          obtain ⟨rfl, rfl⟩ := ih behind
          exact ⟨rfl, rfl⟩
      | plain unclosed behind =>
          rw [unclosed _ rfl] at closed
          cases closed
  | plain unclosed _ ih =>
      cases again with
      | reference found _ _ | unparsed found _ _ =>
          rw [unclosed _ rfl] at found
          cases found
      | plain _ behind =>
          obtain ⟨rfl, rfl⟩ := ih behind
          exact ⟨rfl, rfl⟩

end Lines

/-! ## What is evaluated -/

section Evaluation

variable (context : Context)

/-- Evaluating the parts of a template comes down to evaluating its references. -/
theorem map_evalAll_templatePart (line : Nat) (fragments : List Fragment) :
    (fun values => String.join (values.map Value.toText)) <$>
        evalAll context line (fragments.map templatePart) =
      (fun values => String.ofList (fill fragments values)) <$>
        evalAll context line (targets fragments) := by
  induction fragments with
  | nil => rfl
  | cons fragment fragments ih =>
      rw [List.map_cons, evalAll]
      cases refers : fragment.target? with
      | none =>
          have part : (templatePart fragment).eval context line =
              pure (.text (String.ofList fragment.verbatim)) := by
            rw [templatePart_eq, refers, Option.getD_none, Expr.eval]
          have front := congrArg (Functor.map (String.ofList fragment.verbatim ++ ·)) ih
          simp only [Functor.map_map] at front
          simpa [part, targets_of_none refers, fill_of_none refers, Value.toText] using front
      | some reference =>
          have part : templatePart fragment = reference := by
            rw [templatePart_eq, refers, Option.getD_some]
          rw [part, targets_of_some refers, evalAll]
          simp only [map_bind, map_pure]
          refine bind_congr fun value => ?_
          have front := congrArg (Functor.map (value.toText ++ ·)) ih
          simp only [Functor.map_map] at front
          simpa [fill_of_some refers] using front

/-- The text of joined parts is the text of all of them. -/
theorem map_toText_eval_joinParts (line : Nat) (parts : List Expr) :
    Value.toText <$> (joinParts parts).eval context line =
      (fun values => String.join (values.map Value.toText)) <$> evalAll context line parts := by
  unfold joinParts
  split
  · simp [evalAll]
  · simp [Expr.eval, Value.toText]

/-- A template evaluates its references and sends its line with their values filled in. -/
theorem performAll_ofTemplate (source : String) :
    performAll context (Program.ofTemplate source).statements =
      evalAll context 1 (targets (templateFragments (templateLine source))) >>= fun values =>
        modify fun run =>
          { run with
            lines := run.lines.push
              (String.ofList (fill (templateFragments (templateLine source)) values)) } := by
  have value : Value.toText <$> (templateValue source).eval context 1 =
      (fun values => String.ofList (fill (templateFragments (templateLine source)) values)) <$>
        evalAll context 1 (targets (templateFragments (templateLine source))) := by
    rw [← map_evalAll_templatePart, templateValue]
    split
    · rename_i none
      rw [none]
      rfl
    · exact map_toText_eval_joinParts ..
  have sends := congrArg
    (· >>= fun text => (modify fun run => { run with lines := run.lines.push text } : Step Unit))
    value
  simpa [Program.ofTemplate, performAll, Statement.perform] using sends

end Evaluation

namespace Program

/-- **A template sends its line with the references filled in.** The line is made up of the trimmed
lines of the template that are not empty. The fragments of the line make up the line, and the
template is one `send` on line 1. It evaluates the references of the line from left to right: with
their values it sends exactly one line, which is the rendered one, and if one of them fails it sends
nothing and reports that failure. -/
theorem executeOn_ofTemplate (source : String) :
    ∃ line, line = [' '].intercalate
        (((Text.lines source.toList).map Text.trim).filter fun kept => !kept.isEmpty) ∧
    (templateFragments line).flatMap Fragment.verbatim = line ∧
    ∃ value references, (ofTemplate source).statements = [.send value 1] ∧
      (∀ values, values.length = references.length →
        ∃! text, Rendered line references values text) ∧
      ∀ {σ : Type} (context : Context) (counter : Counter σ) (state : σ),
        match (evalAll context 1 references).carry counter (.start state) with
        | (.ok values, after) =>
          ∃ text, Rendered line references values text ∧
            (ofTemplate source).executeOn context counter state =
              (⟨true, [String.ofList text], none⟩, after.counter)
        | (.error failure, after) =>
          (ofTemplate source).executeOn context counter state =
            (⟨false, [], some ⟨some failure.line, failure.name?, failure.message⟩⟩,
              after.counter) := by
  refine ⟨templateLine source, rfl, flatMap_verbatim_templateFragments _, templateValue source,
    targets (templateFragments (templateLine source)), rfl, fun values enough => ?_, ?_⟩
  · have rendered := rendered_fill _ values enough
    exact ⟨_, rendered, fun _ other => (other.unique rendered).2⟩
  · intro σ context counter state
    split
    · rename_i values after evaluated
      refine ⟨_, rendered_fill _ values (evalAll_length evaluated), ?_⟩
      have lines := (Step.quiet_evalAll fun expr _ => Step.quiet_eval expr).lines_eq evaluated
      rw [executeOn_eq, performAll_ofTemplate, Step.carry_bind_ok evaluated, Step.carry_modify]
      simp [Run.outcome, Outcome.completed, lines, Stage.start, Run.start]
    · rename_i failure after evaluated
      have lines := (Step.quiet_evalAll fun expr _ => Step.quiet_eval expr).lines_eq evaluated
      rw [executeOn_eq, performAll_ofTemplate, Step.carry_bind_error evaluated]
      simp [Run.outcome, Outcome.failed, Failure.detail, lines, Stage.start, Run.start]

/-- Of three runs only the second is a reference: the first is no target, the last is not closed. -/
example : (ofTemplate "$(1 + 2) for \n\n $(user) $($(").render =
    "send \"\\$(1 + 2) for $(user) \\$(\\$(\"\n" := by
  decide +kernel

end Program

end ChatScript
