import ChatScript.Counts

/-!
# Computations that count

A script run asks for the next count of its command at points that only the run itself decides,
while other runs may share the same counts. `Counting` describes such a computation by the
requests it makes, so that it can be carried out against counts in memory, against counts kept in
a file, or interleaved with others.
-/

namespace ChatScript

/-- A computation that may ask for the next count of a command in a channel. -/
inductive Counting (α : Type) where
  | done (result : α)
  | next (channel command : String) (resume : Int → Counting α)

namespace Counting

/-- Continues with the result of a computation. -/
def andThen {α β : Type} : Counting α → (α → Counting β) → Counting β
  | done result, continuation => continuation result
  | next channel command resume, continuation =>
    next channel command fun value => (resume value).andThen continuation

instance : Monad Counting where
  pure := done
  bind := andThen

/-- Asks for the next count of a command in a channel. -/
def ask (channel command : String) : Counting Int :=
  next channel command done

/-- Carries out a computation with counts in memory. -/
def run {α : Type} (counts : Counts) : Counting α → α × Counts
  | done result => (result, counts)
  | next channel command resume =>
    let counted := counts.increment channel command
    (resume (counted.count channel command)).run counted

/-- Carries out a computation where `increment` answers its requests. -/
def runWith {m : Type → Type} [Monad m] {α : Type} (increment : String → String → m Int) :
    Counting α → m α
  | done result => pure result
  | next channel command resume => do
    let value ← increment channel command
    (resume value).runWith increment

@[simp] theorem pure_eq_done {α : Type} (result : α) : (pure result : Counting α) = done result :=
  rfl

@[simp] theorem done_bind {α β : Type} (result : α) (continuation : α → Counting β) :
    done result >>= continuation = continuation result :=
  rfl

@[simp] theorem next_bind {α β : Type} (channel command : String) (resume : Int → Counting α)
    (continuation : α → Counting β) :
    next channel command resume >>= continuation =
      next channel command fun value => resume value >>= continuation :=
  rfl

instance : LawfulMonad Counting :=
  LawfulMonad.mk' Counting
    (by
      intro α computation
      induction computation with
      | done result => rfl
      | next channel command resume ih => exact congrArg (next channel command) (funext ih))
    (by intros; rfl)
    (by
      intro α β γ computation first second
      induction computation with
      | done result => rfl
      | next channel command resume ih => exact congrArg (next channel command) (funext ih))

end Counting

end ChatScript
