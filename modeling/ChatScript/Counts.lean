import Std.Data.ExtTreeMap

/-!
# Counts

How often each command has been counted in each channel. Channels and commands are kept in the
order of their names.
-/

namespace ChatScript

/-- The counts of the commands of every channel. -/
abbrev Counts := Std.ExtTreeMap String (Std.ExtTreeMap String Int)

namespace Counts

/-- The count of a command in a channel, 0 if it was never counted. -/
def count (counts : Counts) (channel command : String) : Int :=
  (((counts.get? channel).getD ∅).get? command).getD 0

/-- The counts after a command is counted once more. -/
def increment (counts : Counts) (channel command : String) : Counts :=
  counts.insert channel
    (((counts.get? channel).getD ∅).insert command (counts.count channel command + 1))

/-- Counting a command raises its own count by one and leaves all others alone. -/
theorem count_increment (counts : Counts) (channel command channel' command' : String) :
    (counts.increment channel command).count channel' command' =
      if channel = channel' ∧ command = command' then counts.count channel command + 1
      else counts.count channel' command' := by
  by_cases sameChannel : channel = channel'
  · subst sameChannel
    by_cases sameCommand : command = command'
    · subst sameCommand
      simp [count, increment]
    · simp [count, increment, sameCommand, Std.ExtTreeMap.getElem?_insert]
  · simp [count, increment, sameChannel, Std.ExtTreeMap.getElem?_insert]

end Counts

end ChatScript
