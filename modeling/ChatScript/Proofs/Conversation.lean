import ChatScript.Chat.Session
import ChatScript.Proofs.Stage

/-! # Conversations

A session handles the lines of a chat one after the other. What it makes of them is collected here
line by line, with counts in memory (`Session.conversed`): the replies to each line, the session and
the counts. Carried out with such counts, the loop of a session posts just these replies
(`Session.run_converse`).

Handling a line has two sides. The line is heard, whoever it is from is remembered
(`Session.heard`), and if it invokes a command (`Session.invoked?`), that is carried out in a
context of the session that has heard the line (`Session.handle_fst`).
-/

namespace ChatScript.Chat

namespace Session

/-! ## One line -/

/-- The session after a line is heard. -/
def heard (session : Session) (line : String) : Session :=
  match Line.read? line with
  | none => session
  | some line => { session with seen := remember session.seen line.user }

/-- The command that a line invokes, with the user and the arguments. -/
def invoked? (session : Session) (line : String) : Option (String × List String × Command) := do
  let line ← Line.read? line
  let invocation ← Invocation.read? session.sigil line.message
  let command ← session.registry.find? invocation.command
  pure (line.user, invocation.args, command)

variable (session : Session) (moment : Moment) (line : String)

/-- Whatever a line leads to, the session has only heard the line. -/
theorem handle_snd : (session.handle moment line).2 = session.heard line := by
  rw [handle, heard]
  cases Line.read? line <;> rfl

/-- A line that invokes a command is answered with the replies to its result, and no other line is
answered. -/
theorem handle_fst :
    (session.handle moment line).1 =
      match session.invoked? line with
      | none => pure []
      | some (user, args, command) =>
        replies user <$> command.program.execute
          ((session.heard line).context moment user command.name args) := by
  rw [handle, invoked?, heard]
  cases Line.read? line with
  | none => rfl
  | some chat =>
      simp only [answer, Option.bind_eq_bind, Option.bind_some]
      cases Invocation.read? session.sigil chat.message with
      | none => rfl
      | some invocation =>
          simp only [Option.bind_some]
          cases session.registry.find? invocation.command with
          | none => rfl
          | some command => rfl

/-- Hearing a line changes nothing but who was seen. -/
theorem heard_eq :
    session.heard line = { session with seen := (session.heard line).seen } := by
  rw [heard]
  cases Line.read? line <;> rfl

/-! ## Many lines -/

/-- Handles lines, each at its moment, with counts in memory: the lines with the replies to each of
them, and the session and the counts afterwards. -/
def conversed (session : Session) (counts : Counts) :
    List (Moment × String) → List (String × List String) × Session × Counts
  | [] => ([], session, counts)
  | (moment, line) :: others =>
    let handled := session.handle moment line
    let answered := handled.1.run counts
    let later := handled.2.conversed answered.2 others
    ((line, answered.1) :: later.1, later.2)

/-- A conversation answers its first line and goes on with the counts that this leaves. -/
theorem conversed_cons (counts : Counts) (others : List (Moment × String)) :
    session.conversed counts ((moment, line) :: others) =
      let answered := (session.handle moment line).1.run counts
      let later := (session.heard line).conversed answered.2 others
      ((line, answered.1) :: later.1, later.2) := by
  rw [conversed, handle_snd]

/-- In a conversation, the session hears the lines of the users and none of the replies. -/
theorem conversed_session (counts : Counts) (lines : List (Moment × String)) :
    (session.conversed counts lines).2.1 = (lines.map Prod.snd).foldl heard session := by
  induction lines generalizing session counts with
  | nil => rfl
  | cons first others ih =>
      rw [conversed_cons, ih]
      rfl

end Session

/-! ## The loop of a session -/

/-- What a chat has come to: the counts, the moments to come and what was posted. -/
structure Transcript where
  counts : Counts
  moments : Nat → Moment
  posted : List String

namespace Transcript

/-- Answers a request for the next count of a command. -/
def next (channel command : String) : StateM Transcript Int := fun transcript =>
  let counted := (Counts.next channel command).run transcript.counts
  (counted.1, { transcript with counts := counted.2 })

/-- The moment that comes next. -/
def moment : StateM Transcript Moment := fun transcript =>
  (transcript.moments 0, { transcript with moments := fun k => transcript.moments (k + 1) })

/-- Posts a reply. -/
def post (reply : String) : StateM Transcript Unit :=
  modify fun transcript => { transcript with posted := transcript.posted ++ [reply] }

theorem run_forM_post (transcript : Transcript) (replies : List String) (shown : String → String) :
    (replies.forM fun reply => post (shown reply)).run transcript =
      ((), { transcript with posted := transcript.posted ++ replies.map shown }) := by
  induction replies generalizing transcript with
  | nil =>
      rw [List.map_nil, List.append_nil]
      rfl
  | cons reply replies ih =>
      have step : ((reply :: replies).forM fun reply => post (shown reply)).run transcript =
          (replies.forM fun reply => post (shown reply)).run
            { transcript with posted := transcript.posted ++ [shown reply] } := rfl
      rw [step, ih, List.map_cons, List.append_assoc]
      rfl

/-- On a transcript, counts are handed out as they are in memory. -/
theorem runWith_next {α : Type} (transcript : Transcript) (computation : Counting α) :
    (computation.runWith next).run transcript =
      ((computation.run transcript.counts).1,
        { transcript with counts := (computation.run transcript.counts).2 }) := by
  induction computation generalizing transcript with
  | done result => rfl
  | next channel command resume ih => exact ih _ _

end Transcript

/-- A conversation handles its first line, posts the replies and goes on. -/
theorem Session.converse_cons {m : Type → Type} [Monad m] (increment : String → String → m Int)
    (moment : m Moment) (emit : String → m Unit) (session : Session) (line : String)
    (lines : List String) :
    session.converse increment moment emit (line :: lines) =
      (do let now ← moment
          let replies ← (session.handle now line).1.runWith increment
          replies.forM fun reply => emit (session.post reply)
          let others ← (session.heard line).converse increment moment emit lines
          pure (replies.length + others)) := by
  have posted : (session.heard line).post = session.post := by
    rw [heard_eq]
    rfl
  simp only [converse, handle_snd, posted]

/-- The loop of a session posts the replies to each of the lines, at the moments that come. -/
theorem Session.run_converse (session : Session) (lines : List String) (transcript : Transcript) :
    (session.converse Transcript.next Transcript.moment Transcript.post lines).run transcript =
      let happened := lines.mapIdx fun k line => (transcript.moments k, line)
      let result := session.conversed transcript.counts happened
      let replies := result.1.flatMap Prod.snd
      (replies.length,
        { counts := result.2.2
          moments := fun k => transcript.moments (k + lines.length)
          posted := transcript.posted ++ replies.map session.post }) := by
  induction lines generalizing session transcript with
  | nil =>
      simp only [conversed, List.mapIdx_nil, List.flatMap_nil, List.map_nil, List.append_nil]
      rfl
  | cons line lines ih =>
      have now : Transcript.moment.run transcript = (transcript.moments 0,
        { transcript with moments := fun k => transcript.moments (k + 1) }) := rfl
      have posted : (session.heard line).post = session.post := by
        rw [heard_eq]
        rfl
      rw [converse_cons]
      simp only [StateT.run_bind, now, Transcript.runWith_next, Transcript.run_forM_post, ih,
        posted]
      rw [List.mapIdx_cons, conversed_cons, List.flatMap_cons, List.length_append,
        List.map_append, ← List.append_assoc]
      rfl

end ChatScript.Chat
