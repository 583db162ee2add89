import ChatScript.Chat.Line
import ChatScript.Execution
import ChatScript.Registry

/-!
# Chat sessions

A session answers the lines of one channel. It remembers who has been chatting recently, so that
commands can refer to a random chatter.
-/

namespace ChatScript.Chat

/-- How many chatters a session remembers. -/
def maxSeen : Nat := 500

/-- What the world contributes to the handling of one line: random numbers for the command, random
numbers that choose chatters, and the age of the session in seconds. -/
structure Moment where
  rolls : Nat → Nat
  choices : Nat → Nat
  elapsed : Int

/-- A chat session. -/
structure Session where
  channel : String
  /-- The text that a message has to start with to invoke a command. -/
  sigil : String
  registry : Registry
  /-- Builtins with fixed values, which come before the computed ones. -/
  statics : Std.ExtTreeMap String String
  /-- The chatters of late, the most recently active one last. -/
  seen : List String

/-- The chatters of late after `user` was active. -/
def remember (seen : List String) (user : String) : List String :=
  if user ∈ seen then seen.erase user ++ [user]
  else (if seen.length = maxSeen then seen.drop 1 else seen) ++ [user]

/-- A chatter of late, chosen by a random number. -/
def chooseSeen (seen : List String) (random : Nat) : String :=
  match seen with
  | [] => ""
  | first :: others => pickFrom first others random

/-- Whom a command is aimed at: its first argument without the at signs in front of it, or else
the user. -/
def aimedAt (user : String) (args : List String) : String :=
  match args with
  | [] => user
  | first :: _ =>
    match first.toList.dropWhile (· == '@') with
    | [] => user
    | name => String.ofList name

namespace Session

/-- A session in which nobody has been seen yet. -/
def start (channel sigil : String) (registry : Registry)
    (statics : Std.ExtTreeMap String String) : Session :=
  { channel, sigil, registry, statics, seen := [] }

/-- The context in which a command is carried out for a user. -/
def context (session : Session) (moment : Moment) (user command : String)
    (args : List String) : Context :=
  let given := Context.ofInvocation user session.channel command args moment.rolls
  let computed := { given with counted := true }
    |>.register "uptime" (fun _ => formatUptime moment.elapsed)
    |>.register "ruser" (fun call => chooseSeen session.seen (moment.choices call))
    |>.registerValue "touser" (aimedAt user args)
  computed.registerValues session.statics.toList

/-- The replies to the result of a command: the lines it sent, and a notice if it failed. -/
def replies (user : String) (outcome : Outcome) : List String :=
  match outcome.error with
  | none => outcome.lines
  | some error => outcome.lines ++ [user ++ ", that command failed: " ++ error.message]

/-- The replies to a message of a user. -/
def answer (session : Session) (moment : Moment) (user message : String) :
    Counting (List String) :=
  match Invocation.read? session.sigil message with
  | none => pure []
  | some invocation =>
    match session.registry.find? invocation.command with
    | none => pure []
    | some command => do
      let outcome ← command.program.execute
        (session.context moment user command.name invocation.args)
      pure (replies user outcome)

/-- Handles a chat line: the replies, and the session afterwards. -/
def handle (session : Session) (moment : Moment) (line : String) :
    Counting (List String) × Session :=
  match Line.read? line with
  | none => (pure [], session)
  | some line =>
    let session := { session with seen := remember session.seen line.user }
    (session.answer moment line.user line.message, session)

/-- A reply as it is posted to the channel. -/
def post (session : Session) (reply : String) : String :=
  "[" ++ session.channel ++ "] " ++ reply ++ "\n"

/-- Handles lines in order and posts the replies to each of them; returns the number of replies.
`increment` answers requests for counts, `moment` gives the surroundings of a line, and `emit`
posts. -/
def converse {m : Type → Type} [Monad m] (increment : String → String → m Int)
    (moment : m Moment) (emit : String → m Unit) : Session → List String → m Nat
  | _, [] => pure 0
  | session, line :: lines => do
    let now ← moment
    let (answers, session) := session.handle now line
    let replies ← answers.runWith increment
    replies.forM fun reply => emit (session.post reply)
    let others ← converse increment moment emit session lines
    pure (replies.length + others)

end Session

end ChatScript.Chat
