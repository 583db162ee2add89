import ChatScript.Proofs.Conversation
import ChatScript.Proofs.Mentions
import ChatScript.Proofs.SharedCounts

/-! # Commands that do not interfere

A session carries little over from one line to the next: whom it has heard, and the counts. A
command that does not depend on chance, on the time or on who is chatting (`Steady`) sees of that
only its own count, which no other command changes. So it does not matter to it which other lines
there are (`Session.commands_independent`).

Two runs of a session are compared. At each line they are in sessions that differ at most in the
chatters that they remember (`Session.Twin`), with counts that agree on the command: where a line
invokes it, both answer alike (`Counting.Alike.run_eq`), and any other line leaves its count as it
is (`Counting.Always.count_run`), whether it is there in both runs or only in one.
-/

namespace ChatScript

/-! ## Registries -/

namespace Registry

/-- The registries that come about by registering commands one after the other. -/
inductive Reached : Registry → Prop where
  | empty : Reached ∅
  | add {registry after : Registry} {sigil name body : String} {limit : Nat} {kind : CommandKind}
      (before : Reached registry)
      (added : registry.add sigil limit name body = .ok (kind, after)) : Reached after

/-- A command bears the name that it is registered under. -/
theorem Reached.name_eq {registry : Registry} (reached : registry.Reached) {key : String}
    {command : Command} (registered : registry.get? key = some command) : command.name = key := by
  induction reached with
  | empty => simp at registered
  | @add registry after sigil name body limit kind before added ih =>
      rw [Registry.add] at added
      cases compiled : compileBody limit body with
      | error error =>
          rw [compiled] at added
          cases added
      | ok body =>
          rw [compiled] at added
          cases added
          rw [Std.ExtTreeMap.get?_eq_getElem?, Std.ExtTreeMap.getElem?_insert] at registered
          split at registered
          case isTrue same =>
            cases registered
            exact Std.LawfulEqCmp.eq_of_compare same
          case isFalse => exact ih registered

/-- The registries of lists of names and bodies are among them. -/
theorem reached_ofBodies (sigil : String) (limit : Nat) (bodies : List (String × String)) :
    (ofBodies sigil limit bodies).1.Reached := by
  refine List.foldlRecOn
    (motive := fun loaded : Registry × List (String × ParseError) => loaded.1.Reached)
    bodies _ .empty ?_
  intro loaded reached entry _
  cases added : loaded.1.add sigil limit entry.1 entry.2 with
  | ok result => exact .add reached added
  | error error => exact reached

end Registry

/-! ## Counts of one command -/

namespace Counting

variable {α : Type} {key : String × String}

/-- Computations that are alike and ask only for one count have the same result and raise it alike,
whatever the other counts are. -/
theorem Alike.run_eq {first second : Counting α}
    (alike : first.Alike (fun asked asked' => asked = key ∧ asked' = key) second)
    {counts counts' : Counts} (same : counts.count key.1 key.2 = counts'.count key.1 key.2) :
    (first.run counts).1 = (second.run counts').1 ∧
      (first.run counts).2.count key.1 key.2 = (second.run counts').2.count key.1 key.2 := by
  induction first generalizing second counts counts' with
  | done result =>
      cases second with
      | done other => exact ⟨alike, same⟩
      | next => cases alike
  | next channel command resume ih =>
      cases second with
      | done => cases alike
      | next channel' command' resume' =>
          obtain ⟨⟨rfl, asked⟩, go⟩ := alike
          obtain ⟨rfl, rfl⟩ := Prod.mk.inj asked
          have counted : (counts.increment channel' command').count channel' command' =
              (counts'.increment channel' command').count channel' command' := by
            rw [Counts.count_increment, Counts.count_increment, if_pos ⟨rfl, rfl⟩,
              if_pos ⟨rfl, rfl⟩, same]
          rw [run, run, counted]
          exact ih _ (go _) counted

/-- A computation that asks only for other counts leaves a count as it is. -/
theorem Always.count_run {asks : String → String → Prop} {holds : α → Prop}
    {computation : Counting α} (always : computation.Always asks holds) {channel command : String}
    (others : ¬asks channel command) (counts : Counts) :
    (computation.run counts).2.count channel command = counts.count channel command := by
  induction computation generalizing counts with
  | done result => rfl
  | next channel' command' resume ih =>
      obtain ⟨asked, go⟩ := always
      rw [run, ih _ (go _), Counts.count_increment, if_neg]
      rintro ⟨rfl, rfl⟩
      exact others asked

end Counting

namespace Chat

/-! ## Sessions that remember different chatters -/

/-- What a command does follows from its invocations alone: it calls for no random number, and does
not refer to who is chatting or to the time, unless a static value stands in for it. -/
structure Steady (program : Program) (statics : Std.ExtTreeMap String String) : Prop where
  noRoll : ¬program.Calls "roll"
  noPick : ¬program.Calls "pick"
  ruser : program.Refers "ruser" → "ruser" ∈ statics
  uptime : program.Refers "uptime" → "uptime" ∈ statics

instance (program : Program) (statics : Std.ExtTreeMap String String) :
    Decidable (Steady program statics) :=
  decidable_of_iff
    (¬program.Calls "roll" ∧ ¬program.Calls "pick" ∧
      (program.Refers "ruser" → "ruser" ∈ statics) ∧
      (program.Refers "uptime" → "uptime" ∈ statics))
    ⟨fun ⟨roll, pick, ruser, uptime⟩ => ⟨roll, pick, ruser, uptime⟩,
      fun ⟨roll, pick, ruser, uptime⟩ => ⟨roll, pick, ruser, uptime⟩⟩

namespace Session

/-- Sessions that differ at most in the chatters that they remember. -/
structure Twin (first second : Session) : Prop where
  channel : first.channel = second.channel
  sigil : first.sigil = second.sigil
  registry : first.registry = second.registry
  statics : first.statics = second.statics

theorem Twin.invoked? {first second : Session} (twin : first.Twin second) (line : String) :
    first.invoked? line = second.invoked? line := by
  rw [Session.invoked?, Session.invoked?, twin.sigil, twin.registry]

theorem twin_heard (session : Session) (line : String) : session.Twin (session.heard line) := by
  rw [heard_eq]
  exact ⟨rfl, rfl, rfl, rfl⟩

theorem Twin.symm {first second : Session} (twin : first.Twin second) : second.Twin first :=
  ⟨twin.channel.symm, twin.sigil.symm, twin.registry.symm, twin.statics.symm⟩

theorem Twin.trans {first second third : Session} (twin : first.Twin second)
    (other : second.Twin third) : first.Twin third :=
  ⟨twin.channel.trans other.channel, twin.sigil.trans other.sigil,
    twin.registry.trans other.registry, twin.statics.trans other.statics⟩

theorem Twin.heard {first second : Session} (twin : first.Twin second) (line : String) :
    (first.heard line).Twin (second.heard line) :=
  ((twin_heard first line).symm.trans twin).trans (twin_heard second line)

section Contexts

variable {first second : Session} (moment moment' : Moment) (user command : String)
  (args : List String)

theorem key_context (session : Session) :
    (session.context moment user command args).key = (session.channel, command) := by
  rw [context, Context.registerValues_eq]
  rfl

theorem counted_context (session : Session) :
    (session.context moment user command args).counted = true := by
  rw [context, Context.registerValues_eq]
  rfl

theorem args_context (session : Session) :
    (session.context moment user command args).args = args := by
  rw [context, Context.registerValues_eq]
  rfl

/-- Twins register the same builtins, apart from those that depend on the chatters and on the time.
-/
theorem Twin.get?_context (twin : first.Twin second) {name : String}
    (free : name = "ruser" ∨ name = "uptime" → name ∈ first.statics) :
    (first.context moment user command args).builtins.get? name =
      (second.context moment' user command args).builtins.get? name := by
  rw [context, context, ← twin.statics, ← twin.channel]
  refine Context.get?_registerValues_congr fun absent => ?_
  rw [Std.ExtTreeMap.map_fst_toList_eq_keys, Std.ExtTreeMap.mem_keys] at absent
  have other : "ruser" ≠ name ∧ "uptime" ≠ name :=
    ⟨fun same => absent (free (.inl same.symm)), fun same => absent (free (.inr same.symm))⟩
  simp only [Context.registerValue, Context.get?_register, if_neg other.1, if_neg other.2]
  rfl

theorem Twin.isReserved_context (twin : first.Twin second) (name : String) :
    (first.context moment user command args).isReserved name =
      (second.context moment' user command args).isReserved name := by
  by_cases standard : name ∈ standardNames
  · have reserved : ∀ context : Context, context.isReserved name = true := fun context => by
      simp [Context.isReserved, standard]
    rw [reserved, reserved]
  · have same : (first.context moment user command args).builtins.get? name =
        (second.context moment' user command args).builtins.get? name := by
      refine twin.get?_context moment moment' user command args ?_
      rintro (rfl | rfl) <;> exact absurd (by decide) standard
    simp only [Context.isReserved, Std.ExtTreeMap.contains_eq_isSome_getElem?,
      ← Std.ExtTreeMap.get?_eq_getElem?, same]

/-- In twin sessions a steady command leads to computations that are alike. -/
theorem Twin.execute_alike (twin : first.Twin second) {program : Program}
    (steady : Steady program first.statics) :
    (program.execute (first.context moment user command args)).Alike
      (fun asked asked' => asked = (first.channel, command) ∧ asked' = (first.channel, command))
      (program.execute (second.context moment' user command args)) := by
  refine program.execute_alike ?_ ?_ ?_ ?_ ?_
  · rw [args_context, args_context]
  · refine fun name refers => twin.get?_context moment moment' user command args ?_
    rintro (rfl | rfl)
    · exact steady.ruser refers
    · exact steady.uptime refers
  · exact fun name _ => twin.isReserved_context moment moment' user command args name
  · exact fun calls => (calls.elim steady.noRoll steady.noPick).elim
  · refine fun _ => ⟨by rw [counted_context, counted_context], fun _ => ?_⟩
    rw [key_context, key_context, twin.channel]
    exact ⟨rfl, rfl⟩

end Contexts

/-! ## Lines that are left out -/

/-- Whether a line invokes the command of the given name. -/
def invokes (session : Session) (name line : String) : Bool :=
  (session.invoked? line).any fun invoked => invoked.2.2.name == name

/-- Twins are invoked by the same lines. -/
theorem Twin.invokes {first second : Session} (twin : first.Twin second) (name : String) :
    first.invokes name = second.invokes name := by
  funext line
  rw [Session.invokes, Session.invokes, twin.invoked?]

/-- Some lines are left out, but none that is to be spared. The moments may change. -/
inductive Thinned (spared : String → Bool) :
    List (Moment × String) → List (Moment × String) → Prop where
  | nil : Thinned spared [] []
  | keep (moment moment' : Moment) (line : String) {lines kept : List (Moment × String)}
      (others : Thinned spared lines kept) :
      Thinned spared ((moment, line) :: lines) ((moment', line) :: kept)
  | delete (moment : Moment) {line : String} (free : spared line = false)
      {lines kept : List (Moment × String)} (others : Thinned spared lines kept) :
      Thinned spared ((moment, line) :: lines) kept

/-- The session offers a steady command under a name, and `spared` tells the lines that invoke
it. -/
structure Offers (session : Session) (command : Command) (name : String)
    (spared : String → Bool) : Prop where
  reached : session.registry.Reached
  registered : session.registry.get? name = some command
  steady : Steady command.program session.statics
  spared : session.invokes name = spared

namespace Offers

variable {session : Session} {command : Command} {name : String} {spared : String → Bool}

/-- A twin offers the same command. -/
theorem of_twin {second : Session} (offers : session.Offers command name spared)
    (twin : session.Twin second) : second.Offers command name spared where
  reached := twin.registry ▸ offers.reached
  registered := twin.registry ▸ offers.registered
  steady := twin.statics ▸ offers.steady
  spared := (twin.invokes name).symm.trans offers.spared

theorem heard (offers : session.Offers command name spared) (line : String) :
    (session.heard line).Offers command name spared :=
  offers.of_twin (twin_heard session line)

/-- A line that invokes the name invokes the command that is registered under it. -/
theorem exists_invoked (offers : session.Offers command name spared) {line : String}
    (invokes : spared line = true) :
    ∃ user args, session.invoked? line = some (user, args, command) := by
  rw [← offers.spared] at invokes
  obtain ⟨⟨user, args, called⟩, invoked, named⟩ := (Option.any_eq_true _ _).mp invokes
  refine ⟨user, args, ?_⟩
  rw [invoked]
  rw [invoked?] at invoked
  simp only [Option.bind_eq_bind, Option.bind_eq_some_iff, Option.pure_def, Option.some.injEq,
    Prod.mk.injEq] at invoked
  obtain ⟨chat, -, invocation, -, command', found, rfl, rfl, rfl⟩ := invoked
  have same : command'.name = lowercase invocation.command := offers.reached.name_eq found
  rw [Registry.find?, ← same, beq_iff_eq.mp named, offers.registered] at found
  cases found
  rfl

/-- A line that does not invoke the name leaves the count of the command as it is. -/
theorem count_handle (offers : session.Offers command name spared) {line : String}
    (free : spared line = false) (moment : Moment) (counts : Counts) :
    ((session.handle moment line).1.run counts).2.count session.channel name =
      counts.count session.channel name := by
  rw [← offers.spared, invokes] at free
  rw [handle_fst]
  cases invoked : session.invoked? line with
  | none => rfl
  | some called =>
      obtain ⟨user, args, called⟩ := called
      have different : called.name ≠ name := by simpa [invoked] using free
      have asks := (called.program.execute_asks
        ((session.heard line).context moment user called.name args)).map (replies user)
      have others : ¬(session.channel, name) =
          ((session.heard line).context moment user called.name args).key := by
        rw [key_context, Prod.mk.injEq]
        exact fun same => different same.2.symm
      exact asks.count_run others counts

/-- In twin sessions that agree on the count of the command a line that invokes it is answered
alike, and after any line they agree on the count again. -/
theorem run_handle {first second : Session} (offers : first.Offers command name spared)
    (twin : first.Twin second) (line : String) (moment moment' : Moment) {counts counts' : Counts}
    (same : counts.count first.channel name = counts'.count first.channel name) :
    (spared line = true → ((first.handle moment line).1.run counts).1 =
        ((second.handle moment' line).1.run counts').1) ∧
      ((first.handle moment line).1.run counts).2.count first.channel name =
        ((second.handle moment' line).1.run counts').2.count first.channel name := by
  cases invokes : spared line with
  | true =>
      obtain rfl : command.name = name := offers.reached.name_eq offers.registered
      obtain ⟨user, args, invoked⟩ := offers.exists_invoked invokes
      have alike := ((twin.heard line).execute_alike moment moment' user command.name args
        (offers.heard line).steady).map (replies user)
      rw [← (twin_heard first line).channel] at alike
      rw [handle_fst, handle_fst, ← twin.invoked?, invoked]
      obtain ⟨answers, raised⟩ := alike.run_eq same
      exact ⟨fun _ => answers, raised⟩
  | false =>
      have before := offers.count_handle invokes moment counts
      have after := (offers.of_twin twin).count_handle invokes moment' counts'
      rw [← twin.channel] at after
      exact ⟨Bool.noConfusion, before.trans (same.trans after.symm)⟩

/-- Leaving out lines that do not invoke the command leaves the replies to those that do, and the
count of the command, as they are. -/
theorem conversed_thinned {first second : Session} (offers : first.Offers command name spared)
    (twin : first.Twin second) {lines kept : List (Moment × String)}
    (thinned : Thinned spared lines kept) {counts counts' : Counts}
    (same : counts.count first.channel name = counts'.count first.channel name) :
    ((first.conversed counts lines).1.filter fun exchange => spared exchange.1) =
        ((second.conversed counts' kept).1.filter fun exchange => spared exchange.1) ∧
      (first.conversed counts lines).2.2.count first.channel name =
        (second.conversed counts' kept).2.2.count first.channel name := by
  -- The sessions drift apart where a line is left out, so the induction is over any twins that
  -- agree on the count of the command.
  induction thinned generalizing first second counts counts' with
  | nil => exact ⟨rfl, same⟩
  | keep moment moment' line others ih =>
      obtain ⟨answers, raised⟩ := offers.run_handle twin line moment moment' same
      rw [(twin_heard first line).channel] at raised
      obtain ⟨replies, counted⟩ := ih (offers.heard line) (twin.heard line) raised
      rw [← (twin_heard first line).channel] at counted
      rw [conversed_cons, conversed_cons]
      refine ⟨?_, counted⟩
      rw [List.filter_cons, List.filter_cons, replies]
      cases invokes : spared line with
      | true => rw [answers invokes]
      | false => rfl
  | delete moment free others ih =>
      have unchanged := offers.count_handle free moment counts
      rw [(twin_heard first _).channel] at unchanged same
      obtain ⟨replies, counted⟩ := ih (offers.heard _) ((twin_heard first _).symm.trans twin)
        (unchanged.trans same)
      rw [← (twin_heard first _).channel] at counted
      rw [conversed_cons]
      refine ⟨?_, counted⟩
      rw [List.filter_cons, if_neg (by simp [free]), replies]

end Offers

/-- Commands do not interfere with each other.

Whatever lines are left out that do not invoke a steady command, the lines that invoke it are
answered as before, and its count in the channel ends as before. The lines that stay may be handled
at other moments. -/
theorem commands_independent {session : Session} (reached : session.registry.Reached)
    {name : String} {command : Command} (registered : session.registry.get? name = some command)
    (steady : Steady command.program session.statics) {lines kept : List (Moment × String)}
    (thinned : Thinned (session.invokes name) lines kept) (counts : Counts) :
    ((session.conversed counts lines).1.filter fun exchange => session.invokes name exchange.1) =
        ((session.conversed counts kept).1.filter fun exchange =>
          session.invokes name exchange.1) ∧
      (session.conversed counts lines).2.2.count session.channel name =
        (session.conversed counts kept).2.2.count session.channel name :=
  Offers.conversed_thinned ⟨reached, registered, steady, rfl⟩ ⟨rfl, rfl, rfl, rfl⟩ thinned rfl

/-- A command counts on while lines without it, also of another command, are left out between its
invocations. -/
theorem commands_independent_hug :
    let registry := (Registry.ofBodies "!" 64 [("hug", "$(user) hugs $(touser), $(count())"),
      ("!Roll", "set n $(count())\nsend roll(1, n)")]).1
    let session := start "#den" "!" registry ∅
    let early : Moment := ⟨id, id, 5⟩
    let late : Moment := ⟨fun _ => 3, id, 70⟩
    let lines := [(early, "ann: !hug @bob"), (early, "bob: !roll"), (late, "bob: !HUG")]
    let kept := [(late, "ann: !hug @bob"), (early, "bob: !HUG")]
    let answered := [("ann: !hug @bob", ["ann hugs bob, 1"]), ("bob: !HUG", ["bob hugs bob, 2"])]
    ((session.conversed ∅ lines).1.filter fun exchange => session.invokes "hug" exchange.1) =
        answered ∧
      (session.conversed ∅ kept).1 = answered ∧
      (session.conversed ∅ lines).2.2.count "#den" "hug" = 2 := by
  intro registry session early late lines kept answered
  obtain ⟨command, registered⟩ : ∃ command, registry.get? "hug" = some command :=
    Option.isSome_iff_exists.mp (by decide +kernel)
  have steady : ∀ command ∈ registry.get? "hug", Steady command.program ∅ := by decide +kernel
  have thinned : Thinned (session.invokes "hug") lines kept :=
    .keep _ _ _ (.delete _ (by decide +kernel) (.keep _ _ _ .nil))
  obtain ⟨replies, counted⟩ := commands_independent (Registry.reached_ofBodies _ _ _) registered
    (steady command registered) thinned ∅
  have whole : (session.conversed ∅ kept).1 = answered := by decide +kernel
  have invoking : (answered.filter fun exchange => session.invokes "hug" exchange.1) =
      answered := by decide +kernel
  rw [replies, whole]
  exact ⟨invoking, rfl, counted.trans (by decide +kernel)⟩

end Session

end Chat

end ChatScript
