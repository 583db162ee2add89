import ChatScript.Proofs.Builtins
import ChatScript.Proofs.Conversation
import Mathlib.Data.List.Dedup
import Mathlib.Data.List.DropRight

/-! # The chatters of late

A session remembers who has been chatting. However the lines come, these are the last `maxSeen` of
the users that had a line, each listed once, where their last line puts them
(`Session.seen_conversed`): a user who returns moves to the end (`dedup_concat`), and a new one
takes the place of the least recently active one if there are too many.

While a command is carried out, `$(ruser)` is one of them, unless a static value stands in for it
(`Session.ruser_mem_seen`).
-/

namespace ChatScript.Chat

/-! ## The last entries of a list -/

section Lists

variable {α : Type}

/-- If there are enough entries, the last ones are among them. -/
theorem rtake_append_of_le {front entries : List α} {n : Nat} (enough : n ≤ entries.length) :
    (front ++ entries).rtake n = entries.rtake n := by
  rw [List.rtake, List.rtake, List.length_append, List.drop_append,
    List.drop_eq_nil_of_le (by omega), List.nil_append]
  congr 1
  omega

theorem rtake_of_le {entries : List α} {n : Nat} (few : entries.length ≤ n) :
    entries.rtake n = entries := by
  rw [List.rtake, Nat.sub_eq_zero_of_le few, List.drop_zero]

/-- No more entries are kept than there is room for. -/
theorem length_rtake_le (entries : List α) (n : Nat) : (entries.rtake n).length ≤ n := by
  rw [List.rtake, List.length_drop]
  omega

/-- What is dropped stands in front of what is kept. -/
theorem exists_append_rtake (entries : List α) (n : Nat) :
    ∃ front, entries = front ++ entries.rtake n :=
  ⟨_, (List.take_append_drop _ _).symm⟩

variable [DecidableEq α]

/-- An entry at the end takes the place of an earlier one. -/
theorem dedup_concat (entries : List α) (last : α) :
    (entries ++ [last]).dedup = entries.dedup.erase last ++ [last] := by
  induction entries with
  | nil => rfl
  | cons entry entries ih =>
      rw [List.cons_append, List.dedup_cons, List.dedup_cons, ih]
      by_cases same : entry = last
      · subst same
        by_cases earlier : entry ∈ entries
        · simp [earlier]
        · simp [earlier, List.erase_of_not_mem]
      · by_cases earlier : entry ∈ entries <;> simp [earlier, same]

/-- Where an entry is missing, one more of the last entries is needed for as many as before. -/
theorem rtake_erase {entries : List α} (nodup : entries.Nodup) (entry : α) (n : Nat) :
    (entries.erase entry).rtake n = ((entries.rtake (n + 1)).erase entry).rtake n := by
  by_cases few : entries.length ≤ n + 1
  · rw [rtake_of_le few]
  · have full : (entries.rtake (n + 1)).length = n + 1 := by
      rw [List.rtake, List.length_drop]
      omega
    have enough : n ≤ ((entries.rtake (n + 1)).erase entry).length := by
      rw [List.length_erase]
      split <;> omega
    obtain ⟨front, split⟩ := exists_append_rtake entries (n + 1)
    -- The entry is missing among those that are dropped anyway, or among the last ones.
    by_cases early : entry ∈ front
    · have late : entry ∉ entries.rtake (n + 1) := by
        rw [split] at nodup
        exact fun member => List.disjoint_of_nodup_append nodup early member
      rw [List.erase_of_not_mem late]
      conv_lhs => rw [split, List.erase_append_left _ early]
      exact rtake_append_of_le (by omega)
    · conv_lhs => rw [split, List.erase_append_right _ early]
      exact rtake_append_of_le enough

end Lists

/-- Remembering a user keeps the last chatters of those that were active, each listed once. -/
theorem remember_rtake (users : List String) (user : String) :
    remember (users.dedup.rtake maxSeen) user = (users ++ [user]).dedup.rtake maxSeen := by
  have size : maxSeen = 499 + 1 := rfl
  rw [dedup_concat, size, List.rtake_concat_succ, rtake_erase users.nodup_dedup, remember, size]
  have bounded := length_rtake_le users.dedup (499 + 1)
  generalize users.dedup.rtake (499 + 1) = seen at bounded
  split
  case isTrue known =>
    rw [rtake_of_le]
    have := List.length_erase_of_mem known
    omega
  case isFalse unknown =>
    rw [List.erase_of_not_mem unknown]
    split
    case isTrue full => rw [List.rtake, full]
    case isFalse room => rw [rtake_of_le (by omega)]

/-- The user of each line that has one. -/
def chatters (lines : List String) : List String :=
  lines.filterMap fun line => (Line.read? line).map Line.user

/-- After lines are heard, the users seen are the last ones of all users, each where it spoke last.
-/
theorem Session.seen_foldl_heard (session : Session) (users lines : List String)
    (start : session.seen = users.dedup.rtake maxSeen) :
    (lines.foldl heard session).seen = (users ++ chatters lines).dedup.rtake maxSeen := by
  induction lines generalizing session users with
  | nil => rw [List.foldl_nil, chatters, List.filterMap_nil, List.append_nil, start]
  | cons line lines ih =>
      rw [List.foldl_cons]
      cases read : Line.read? line with
      | none =>
          have quiet : session.heard line = session := by rw [heard, read]
          have others : chatters (line :: lines) = chatters lines := by simp [chatters, read]
          rw [quiet, others, ih session users start]
      | some chat =>
          have seen : (session.heard line).seen = (users ++ [chat.user]).dedup.rtake maxSeen := by
            rw [← remember_rtake, ← start, heard, read]
          have others : chatters (line :: lines) = chat.user :: chatters lines := by
            simp [chatters, read]
          rw [ih _ _ seen, others, List.append_assoc, List.singleton_append]

/-! ## The order of activity -/

/-- One user was active again after another was active for the last time. -/
def ActiveBefore (users : List String) (older newer : String) : Prop :=
  ∃ earlier later, users = earlier ++ later ∧ older ∉ later ∧ newer ∈ later

/-- Without repetitions, users stand in the order in which they were last active. -/
theorem pairwise_dedup (users : List String) : users.dedup.Pairwise (ActiveBefore users) := by
  induction users with
  | nil => exact List.Pairwise.nil
  | cons user users ih =>
      have others : users.dedup.Pairwise (ActiveBefore (user :: users)) := by
        refine ih.imp fun {older newer} before => ?_
        obtain ⟨earlier, later, rfl, gone, back⟩ := before
        exact ⟨user :: earlier, later, rfl, gone, back⟩
      rw [List.dedup_cons]
      split
      case isTrue => exact others
      case isFalse gone =>
        refine List.Pairwise.cons (fun newer member => ?_) others
        exact ⟨[user], users, rfl, gone, List.mem_dedup.mp member⟩

/-! ## A random chatter -/

theorem mem_remember (seen : List String) (user : String) : user ∈ remember seen user := by
  rw [remember]
  split <;> simp

/-- Someone who was seen is chosen, if anyone was. -/
theorem chooseSeen_mem {seen : List String} (nonempty : seen ≠ []) (random : Nat) :
    chooseSeen seen random ∈ seen := by
  cases seen with
  | nil => exact absurd rfl nonempty
  | cons first others => exact List.get_mem _ _

namespace Session

/-- Unless it is set in the configuration, `ruser` is chosen from those seen when it is asked for.
-/
theorem get?_context_ruser {session : Session} (free : "ruser" ∉ session.statics) (moment : Moment)
    (user command : String) (args : List String) :
    (session.context moment user command args).builtins.get? "ruser" =
      some fun call => chooseSeen session.seen (moment.choices call) := by
  have absent : "ruser" ∉ session.statics.toList.map Prod.fst := by
    rwa [Std.ExtTreeMap.map_fst_toList_eq_keys, Std.ExtTreeMap.mem_keys]
  rw [context, Context.get?_registerValues_of_notMem absent]
  simp only [Context.registerValue, Context.get?_register]
  rfl

/-- Wherever a command refers to `$(ruser)`, that is one of the chatters of late. -/
theorem ruser_mem_seen {session : Session} (free : "ruser" ∉ session.statics)
    (heardSome : session.seen ≠ []) (moment : Moment) (user command : String) (args : List String)
    (program : Program) {σ : Type} (counter : Counter σ) (state : σ) {line : Nat}
    {stage : Stage σ}
    (point : .expression line (.reference "ruser") stage ∈
      program.points (session.context moment user command args) counter state) :
    ∃ chatter ∈ session.seen,
      (((Expr.reference "ruser").eval (session.context moment user command args) line).carry
        counter stage).1 = .ok (.text chatter) := by
  have unshadowed := (kept_unshadowed.blockPoints.2 program.statements (.start state)
    (unshadowed_start _)).1 _ point
  have value : ((Expr.reference "ruser").eval (session.context moment user command args) line).carry
      counter stage = _ :=
    carry_reference unshadowed (get?_context_ruser free moment user command args) line
  exact ⟨_, chooseSeen_mem heardSome _, congrArg Prod.fst value⟩

theorem statics_heard (session : Session) (line : String) :
    (session.heard line).statics = session.statics := by
  rw [heard_eq]

/-- A conversation leaves the static values as they are. -/
theorem statics_conversed (session : Session) (counts : Counts) (lines : List (Moment × String)) :
    (session.conversed counts lines).2.1.statics = session.statics := by
  induction lines generalizing session counts with
  | nil => rfl
  | cons first lines ih => rw [conversed_cons, ih, statics_heard]

/-- Whoever invokes a command is among the chatters of late. -/
theorem seen_heard_ne_nil {session : Session} {line user : String} {args : List String}
    {command : Command} (invoked : session.invoked? line = some (user, args, command)) :
    (session.heard line).seen ≠ [] := by
  rw [heard]
  cases read : Line.read? line with
  | none =>
      rw [invoked?, read] at invoked
      cases invoked
  | some chat => exact List.ne_nil_of_mem (mem_remember session.seen chat.user)

/-- The chatters of late, after any lines: the last `maxSeen` of their users, each of them listed
once, where the last of its lines puts it.

So nobody is listed twice, there are no more than `maxSeen`, they stand in the order of their last
activity, and whoever was dropped was active for the last time before all that are kept. If no
static value stands in for it, `$(ruser)` is one of them wherever a command refers to it while it is
carried out. -/
theorem seen_conversed (channel sigil : String) (registry : Registry)
    (statics : Std.ExtTreeMap String String) (counts : Counts) (lines : List (Moment × String)) :
    let session := ((start channel sigil registry statics).conversed counts lines).2.1
    let users := chatters (lines.map Prod.snd)
    session.seen = users.dedup.rtake maxSeen ∧
    session.seen.Nodup ∧
    session.seen.length ≤ maxSeen ∧
    session.seen.Pairwise (ActiveBefore users) ∧
    (∀ user ∈ users, user ∉ session.seen →
      ∀ kept ∈ session.seen, ActiveBefore users user kept) ∧
    ("ruser" ∉ statics → ∀ moment line user args command,
      session.invoked? line = some (user, args, command) →
      let during := session.heard line
      let context := during.context moment user command.name args
      (session.handle moment line).1 = replies user <$> command.program.execute context ∧
      ∀ {σ : Type} (counter : Counter σ) (state : σ) line stage,
        .expression line (.reference "ruser") stage ∈
            command.program.points context counter state →
          ∃ chatter ∈ during.seen,
            (((Expr.reference "ruser").eval context line).carry counter stage).1 =
              .ok (.text chatter)) := by
  intro session users
  have last : session.seen = users.dedup.rtake maxSeen := by
    have seen := seen_foldl_heard (start channel sigil registry statics) []
      (lines.map Prod.snd) rfl
    rwa [← conversed_session _ counts] at seen
  obtain ⟨front, split⟩ := exists_append_rtake users.dedup maxSeen
  have nodup := users.nodup_dedup
  have ordered := pairwise_dedup users
  rw [split, ← last] at nodup ordered
  rw [List.pairwise_append] at ordered
  refine ⟨last, nodup.of_append_right, last ▸ length_rtake_le _ _, ordered.2.1, ?_, ?_⟩
  · intro user active dropped kept member
    have early : user ∈ front := by
      rw [← List.mem_dedup, split, List.mem_append, ← last] at active
      exact active.resolve_right dropped
    exact ordered.2.2 user early kept member
  · intro free moment line user args command invoked during context
    have same : during.statics = statics :=
      (statics_heard session line).trans (statics_conversed _ counts lines)
    rw [← same] at free
    refine ⟨by rw [handle_fst, invoked], fun counter state line stage point => ?_⟩
    exact ruser_mem_seen free (seen_heard_ne_nil invoked) moment user command.name args
      command.program counter state point

/-- A user who speaks again is the last one seen, and whoever invokes a command is seen by it. -/
theorem seen_conversed_returning :
    let who : Command := ⟨"who", .template, ⟨[.send (.reference "ruser") 1]⟩⟩
    let registry : Registry := (∅ : Registry).insert "who" who
    let moment : Moment := ⟨id, id, 0⟩
    let lines := [(moment, "ann: hi"), (moment, "bob: hi"), (moment, "no user"),
      (moment, "ann: again")]
    let session := ((start "#den" "!" registry ∅).conversed ∅ lines).2.1
    session.seen = ["bob", "ann"] ∧
      ∃ chatter ∈ ["bob", "ann", "cat"],
        (((Expr.reference "ruser").eval
          ((session.heard "cat: !who").context moment "cat" "who" []) 1).carry Counts.next
            (.start ∅)).1 = .ok (.text chatter) := by
  intro who registry moment lines session
  obtain ⟨last, -, -, -, -, random⟩ := seen_conversed "#den" "!" registry ∅ ∅ lines
  have seen : session.seen = ["bob", "ann"] := last.trans (by decide +kernel)
  refine ⟨seen, ?_⟩
  have read : Line.read? "cat: !who" = some ⟨"cat", "!who"⟩ := by decide +kernel
  have message : Invocation.read? session.sigil "!who" = some ⟨"who", []⟩ := by decide +kernel
  have found : session.registry.find? "who" = some who := by
    have lower : lowercase "who" = "who" := by decide +kernel
    have kept : session.registry = registry := rfl
    simp [Registry.find?, lower, kept, registry]
  have invoked : session.invoked? "cat: !who" = some ("cat", [], who) := by
    simp [invoked?, read, message, found]
  have heardCat : (session.heard "cat: !who").seen = ["bob", "ann", "cat"] := by decide +kernel
  have reached : (who.program.points ((session.heard "cat: !who").context moment "cat" "who" [])
      Counts.next ∅)[1]? = some (.expression 1 (.reference "ruser") (.start ∅)) := rfl
  have chosen := (random Std.ExtTreeMap.not_mem_empty moment "cat: !who" "cat" [] who invoked).2
    Counts.next ∅ 1 (.start ∅) (List.mem_of_getElem? reached)
  rwa [heardCat] at chosen

end Session

end ChatScript.Chat
