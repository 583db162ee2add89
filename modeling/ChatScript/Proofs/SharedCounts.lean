import ChatScript.Proofs.CountCalls
import ChatScript.Proofs.Restarts
import Mathlib.Algebra.BigOperators.Group.Finset.Piecewise
import Mathlib.Data.Fintype.Basic

/-! # Invocations that share counts

Invocations that run at the same time share nothing but the counts. Each of them waits for its next
count or is done, and an interleaving of them is a sequence of counts that are handed out to the
invocations, one at a time and in any order (`Pool.Trace`).

An invocation asks only for the counts of its own command (`Program.execute_asks`), so a count that
is handed out changes nothing but the count of that command (`Pool.Owned.grant`). Along a trace the
values handed out for a command follow each other without a gap (`Pool.Trace.handed_eq`). What an
invocation does between is what it does when it is answered with the values it was handed
(`Pool.Trace.answered`), so their number is that of the calls of `count` that it evaluates.
-/

namespace ChatScript

/-! ## A run asks only for its own counts -/

section Asks

variable {α β : Type} {context : Context}

/-- Whatever is answered, the step asks only for the counts of the command of the context. -/
def Step.Asks (context : Context) (step : Step α) : Prop :=
  ∀ run : Run, (step.run.run run).Always
    (fun channel command => (channel, command) = context.key) fun _ => True

theorem Step.Quiet.asks {line : Nat} {step : Step α} (quiet : Step.Quiet context line step) :
    step.Asks context :=
  fun run => (quiet run).mono fun _ _ => trivial

theorem Step.asks_pure (value : α) : (pure value : Step α).Asks context :=
  fun _ => trivial

theorem Step.asks_modify (change : Run → Run) : (modify change : Step Unit).Asks context :=
  fun _ => trivial

theorem Step.Asks.bind {step : Step α} {next : α → Step β} (first : step.Asks context)
    (further : ∀ value, (next value).Asks context) : (step >>= next).Asks context :=
  fun run => always_bind (first run) (fun value after _ => further value after)
    fun _ _ _ => trivial

/-- Statements ask only for the counts of the command that they are carried out for. -/
theorem asks_perform (context : Context) :
    (∀ statement : Statement, (statement.perform context).Asks context) ∧
      ∀ block, (performAll context block).Asks context := by
  apply Statement.branchInduction
  case set =>
    intro name value line
    rw [Statement.perform]
    split
    · exact (Step.quiet_fail _).asks
    · exact (Step.quiet_eval value).asks.bind fun _ => Step.asks_modify _
  case send =>
    intro value line
    exact (Step.quiet_eval value).asks.bind fun _ => Step.asks_modify _
  case conditional =>
    intro condition thenBranch elseBranch line branch
    rw [perform_conditional]
    exact (Step.quiet_eval condition).asks.bind branch
  case empty => exact Step.asks_pure ()
  case next => exact fun _ _ first others => first.bind fun _ => others

/-- A program asks only for the counts of its own command. -/
theorem Program.execute_asks (program : Program) (context : Context) :
    (program.execute context).Always (fun channel command => (channel, command) = context.key)
      fun _ => True :=
  ((asks_perform context).2 program.statements Run.start).map Run.outcome

end Asks

/-! ## Pools of invocations -/

/-- An invocation of a command that shares the counts with others. -/
structure Invocation where
  program : Program
  context : Context
  /-- There are counts to ask for. -/
  counted : context.counted = true

/-- Invocations under way: the counts that they share, and what each of them has still to do. -/
structure Pool (ι : Type) where
  counts : Counts
  pending : ι → Counting Outcome

/-- The values handed out to those of the given kind, in order. A log lists the values handed out
with the one that each was handed to. -/
def handed {ι : Type} (kind : ι → Bool) (log : List (ι × Int)) : List Int :=
  (log.filter fun entry => kind entry.1).map Prod.snd

/-- The counts that follow a count, as many as given. -/
def following (count : Int) (many : Nat) : List Int :=
  (List.range many).map fun k : Nat => count + 1 + k

/-- The first of the counts that follow is the next one. -/
theorem following_succ (count : Int) (many : Nat) :
    following count (many + 1) = (count + 1) :: following (count + 1) many := by
  rw [following, List.range_succ_eq_map, List.map_cons, List.map_map, following]
  congr 1
  · omega
  · refine List.map_congr_left fun k _ => ?_
    rw [Function.comp_apply]
    omega

section Handed

variable {ι : Type} {kind : ι → Bool} {i : ι}

@[simp] theorem handed_nil : handed kind [] = [] :=
  rfl

theorem handed_cons_of_pos (member : kind i = true) (value : Int) (log : List (ι × Int)) :
    handed kind ((i, value) :: log) = value :: handed kind log := by
  simp [handed, member]

theorem handed_cons_of_neg (other : ¬kind i = true) (value : Int) (log : List (ι × Int)) :
    handed kind ((i, value) :: log) = handed kind log := by
  simp [handed, other]

end Handed

namespace Pool

variable {ι : Type}

/-- The pool of the given invocations before any of them has counted. -/
def start (invocations : ι → Invocation) (counts : Counts) : Pool ι where
  counts := counts
  pending := fun i => (invocations i).program.execute (invocations i).context

/-- Each invocation of the pool asks only for the counts of the given key. -/
def Owned (keys : ι → String × String) (pool : Pool ι) : Prop :=
  ∀ i, (pool.pending i).Always (fun channel command => (channel, command) = keys i) fun _ => True

/-- At first, each invocation has all of its own requests before it. -/
theorem owned_start (invocations : ι → Invocation) (counts : Counts) :
    (start invocations counts).Owned fun i => (invocations i).context.key :=
  fun i => (invocations i).program.execute_asks (invocations i).context

variable [DecidableEq ι]

/-- Hands the next count to an invocation, if it waits for one: the value, and the pool
afterwards. -/
def grant (pool : Pool ι) (i : ι) : Option (Int × Pool ι) :=
  match pool.pending i with
  | .done _ => none
  | .next channel command resume =>
    let counted := pool.counts.increment channel command
    let value := counted.count channel command
    some (value, ⟨counted, Function.update pool.pending i (resume value)⟩)

/-- An interleaving: the counts that are handed out one after the other, until the last pool. -/
inductive Trace : Pool ι → List (ι × Int) → Pool ι → Prop where
  | nil (pool : Pool ι) : Trace pool [] pool
  | cons {pool after final : Pool ι} {i : ι} {value : Int} {log : List (ι × Int)}
      (granted : pool.grant i = some (value, after)) (further : Trace after log final) :
      Trace pool ((i, value) :: log) final

variable {keys : ι → String × String} {pool after final : Pool ι} {i : ι} {value : Int}
  {log : List (ι × Int)}

/-- All that handing out a count does. -/
theorem exists_of_grant (granted : pool.grant i = some (value, after)) :
    ∃ channel command resume, pool.pending i = .next channel command resume ∧
      value = pool.counts.count channel command + 1 ∧
      after = ⟨pool.counts.increment channel command,
        Function.update pool.pending i (resume value)⟩ := by
  rw [grant] at granted
  cases waiting : pool.pending i with
  | done outcome =>
      rw [waiting] at granted
      cases granted
  | next channel command resume =>
      rw [waiting, Option.some.injEq, Prod.mk.injEq] at granted
      obtain ⟨rfl, rfl⟩ := granted
      exact ⟨channel, command, resume, rfl, by simp [Counts.count_increment], rfl⟩

/-- A count that is handed to an invocation is the next one for its key, and changes no other. -/
theorem Owned.grant (owned : pool.Owned keys) (granted : pool.grant i = some (value, after)) :
    after.Owned keys ∧ value = pool.counts.count (keys i).1 (keys i).2 + 1 ∧
      ∀ channel command, after.counts.count channel command =
        if keys i = (channel, command) then value else pool.counts.count channel command := by
  obtain ⟨channel, command, resume, waiting, rfl, rfl⟩ := exists_of_grant granted
  have asks := owned i
  rw [waiting] at asks
  obtain ⟨own, further⟩ := asks
  rw [← own]
  refine ⟨?_, rfl, ?_⟩
  · intro j
    by_cases same : j = i
    · subst same
      simpa using further _
    · simpa [Function.update_of_ne same] using owned j
  · intro channel' command'
    simp only [Counts.count_increment, Prod.mk.injEq]

/-- Invocations own their requests all along a trace. -/
theorem Trace.owned (trace : pool.Trace log final) (owned : pool.Owned keys) :
    final.Owned keys := by
  induction trace with
  | nil pool => exact owned
  | cons granted further ih => exact ih (owned.grant granted).1

/-- The values handed out for a key follow its count, and the last of them is its count
afterwards. -/
theorem Trace.handed_eq (trace : pool.Trace log final) (owned : pool.Owned keys)
    (channel command : String) :
    let values := handed (fun i => keys i = (channel, command)) log
    values = following (pool.counts.count channel command) values.length ∧
      final.counts.count channel command =
        pool.counts.count channel command + (values.length : Int) := by
  induction trace with
  | nil pool => simp [following]
  | @cons pool after final i value log granted further ih =>
      obtain ⟨stillOwned, next, counts⟩ := owned.grant granted
      obtain ⟨values, count⟩ := ih stillOwned
      by_cases mine : keys i = (channel, command)
      · obtain rfl : value = pool.counts.count channel command + 1 := by rw [next, mine]
        rw [counts, if_pos mine] at values count
        rw [handed_cons_of_pos (by simpa using mine)]
        refine ⟨?_, ?_⟩
        · rw [List.length_cons, following_succ, ← values]
        · rw [count, List.length_cons]
          omega
      · rw [counts, if_neg mine] at values count
        rw [handed_cons_of_neg (by simpa using mine)]
        exact ⟨values, count⟩

/-- The values handed out along a trace are the answers of a counter in memory that is asked for
them in the same order, and it holds the same counts afterwards. -/
theorem Trace.served (trace : pool.Trace log final) (owned : pool.Owned keys)
    {memory : MemoryCounter} (holds : memory.Holds pool.counts) :
    let served := memory.serveAll
      (log.map fun entry => .increment (keys entry.1).1 (keys entry.1).2)
    served.1 = log.map (fun entry => some entry.2) ∧ served.2.Holds final.counts := by
  induction trace generalizing memory with
  | nil pool => exact ⟨rfl, holds⟩
  | @cons pool after final i value log granted further ih =>
      obtain ⟨stillOwned, next, counts⟩ := owned.grant granted
      have counted : (memory.increment (keys i).1 (keys i).2).Holds after.counts := by
        intro channel command
        rw [counts, MemoryCounter.get_increment, next, holds, holds]
        simp only [Prod.ext_iff]
      have answer : value = (memory.increment (keys i).1 (keys i).2).get (keys i).1 (keys i).2 := by
        rw [← counted, counts, if_pos rfl]
      obtain ⟨answers, kept⟩ := ih stillOwned counted
      refine ⟨?_, kept⟩
      rw [List.map_cons, List.map_cons, answer, ← answers]
      rfl

/-- What an invocation has done by the end of a trace is what it does when it is answered with the
values that it was handed. The requests that it made before the trace are those with the earlier
values. -/
theorem Trace.answered (trace : pool.Trace log final) {outcome : Outcome}
    (done : final.pending i = .done outcome) {earlier values : List Int}
    (all : earlier ++ handed (fun j => j = i) log = values) :
    ((pool.pending i).runWith (answering values)).run earlier.length =
      (outcome, values.length) := by
  induction trace generalizing earlier with
  | nil pool =>
      rw [handed_nil, List.append_nil] at all
      rw [done, all]
      rfl
  | @cons pool after final j value log granted further ih =>
      obtain ⟨channel, command, resume, waiting, next, rfl⟩ := exists_of_grant granted
      by_cases mine : j = i
      · subst mine
        rw [handed_cons_of_pos (by simp)] at all
        have first : values.getD earlier.length 0 = value := by simp [← all]
        have answered := ih done (show (earlier ++ [value]) ++ _ = values by simpa using all)
        rw [waiting, runWith_answering_next, first]
        simpa using answered
      · rw [handed_cons_of_neg (by simpa using mine)] at all
        simpa [Function.update_of_ne (Ne.symm mine)] using ih done all

end Pool

section Sums

variable {ι : Type} [DecidableEq ι] [Fintype ι]

/-- The values handed to several are those handed to each of them, together. -/
theorem length_handed (kind : ι → Bool) (log : List (ι × Int)) :
    (handed kind log).length = ∑ i with kind i, (handed (fun j => j = i) log).length := by
  induction log with
  | nil => simp
  | cons entry log ih =>
      obtain ⟨i, value⟩ := entry
      have one : ∀ j, (handed (fun k => k = j) ((i, value) :: log)).length =
          (handed (fun k => k = j) log).length + if i = j then 1 else 0 := by
        intro j
        by_cases same : i = j
        · rw [handed_cons_of_pos (by simpa using same), List.length_cons, if_pos same]
        · rw [handed_cons_of_neg (by simpa using same), if_neg same, Nat.add_zero]
      simp only [one, Finset.sum_add_distrib, Finset.sum_ite_eq, ← ih, Finset.mem_filter,
        Finset.mem_univ, true_and]
      by_cases member : kind i = true
      · rw [handed_cons_of_pos member, List.length_cons, if_pos member]
      · rw [handed_cons_of_neg member, if_neg member, Nat.add_zero]

end Sums

/-- **However the invocations of a pool are interleaved, none of their counts is lost or handed out
twice.**

Each invocation changes only the count of its own key. It ends as if it had run alone, answered with
the values that it was handed. The values handed out for a key are, in order, those that follow the
count that it had, one for each call of `count` without arguments that the invocations with that key
have evaluated; the last of them is its count in the end. All of this is what a counter in memory
does that the counts are asked of in that order. -/
theorem Pool.counts_shared {ι : Type} [DecidableEq ι] [Fintype ι] (invocations : ι → Invocation)
    (counts : Counts) {log : List (ι × Int)} {final : Pool ι} {outcomes : ι → Outcome}
    (trace : (Pool.start invocations counts).Trace log final)
    (finished : ∀ i, final.pending i = .done (outcomes i)) :
    (∀ earlier pool i value after, (Pool.start invocations counts).Trace earlier pool →
      pool.grant i = some (value, after) →
      ∀ channel command, (channel, command) ≠ (invocations i).context.key →
        after.counts.count channel command = pool.counts.count channel command) ∧
    (∀ i, (invocations i).program.executeOn (invocations i).context
        (answering (handed (fun j => j = i) log)) 0 =
      (outcomes i, (handed (fun j => j = i) log).length)) ∧
    (∀ channel command,
      let total := ∑ i with (invocations i).context.key = (channel, command),
        ((invocations i).program.points (invocations i).context
          (answering (handed (fun j => j = i) log)) 0).countP Point.isCountCall
      handed (fun i => (invocations i).context.key = (channel, command)) log =
          following (counts.count channel command) total ∧
        final.counts.count channel command = counts.count channel command + (total : Int)) ∧
    ∀ memory : MemoryCounter, memory.Holds counts →
      let served := memory.serveAll (log.map fun entry =>
        .increment (invocations entry.1).context.channel (invocations entry.1).context.command)
      served.1 = log.map (fun entry => some entry.2) ∧ served.2.Holds final.counts := by
  have owned := Pool.owned_start invocations counts
  have alone : ∀ i, (invocations i).program.executeOn (invocations i).context
      (answering (handed (fun j => j = i) log)) 0 =
        (outcomes i, (handed (fun j => j = i) log).length) :=
    fun i => trace.answered (finished i) (List.nil_append _)
  refine ⟨?_, alone, ?_, fun memory holds => trace.served owned holds⟩
  · intro earlier pool i value after reached granted channel command other
    rw [((reached.owned owned).grant granted).2.2, if_neg other.symm]
  · intro channel command
    have each : ∀ i, ((invocations i).program.points (invocations i).context
        (answering (handed (fun j => j = i) log)) 0).countP Point.isCountCall =
          (handed (fun j => j = i) log).length := by
      intro i
      rw [← Program.executeOn_answering _ (invocations i).counted, alone]
    have together := length_handed (fun i => (invocations i).context.key = (channel, command)) log
    simp only [decide_eq_true_eq] at together
    simp only [each, ← together]
    exact trace.handed_eq owned channel command

/-- Two invocations of one command, the second of which fails after it has counted, and an
invocation of another command in the same channel. -/
def huggers : Fin 3 → Invocation := fun i =>
  let value : Expr := if i = 1 then .call "count" [.call "count" []] else .call "count" []
  { program := ⟨[.send value 1, .send (.call "count" []) 2]⟩
    context := { Context.ofInvocation "ann" "den" (if i = 2 then "wave" else "hug") [] id with
      counted := true }
    counted := rfl }

/-- The second invocation fails on the count that the first one waits behind, and the third counts
for a command of its own. -/
theorem Pool.counts_shared_interleaved :
    ∃ final, (Pool.start huggers ∅).Trace [(0, 1), (1, 2), (2, 1), (0, 3), (2, 2)] final ∧
      final.counts.count "den" "hug" = 3 ∧ final.counts.count "den" "wave" = 2 := by
  let outcomes : Fin 3 → Outcome := fun i =>
    if i = 1 then .failed [] ⟨1, .arity "count" "expects no arguments, got 1"⟩
    else .completed (if i = 0 then ["1", "3"] else ["1", "2"])
  obtain ⟨final, trace, finished⟩ : ∃ final : Pool (Fin 3),
      (Pool.start huggers ∅).Trace [(0, 1), (1, 2), (2, 1), (0, 3), (2, 2)] final ∧
        ∀ i, final.pending i = .done (outcomes i) := by
    refine ⟨_, .cons rfl (.cons rfl (.cons rfl (.cons rfl (.cons rfl (.nil _))))), ?_⟩
    intro i
    match i with
    | 0 | 1 | 2 => rfl
  have shared := (Pool.counts_shared huggers ∅ trace finished).2.2.1
  refine ⟨final, trace, ?_, ?_⟩
  · rw [(shared "den" "hug").2]
    decide +kernel
  · rw [(shared "den" "wave").2]
    decide +kernel

end ChatScript
