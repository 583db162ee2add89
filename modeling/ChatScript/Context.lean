import Std.Data.ExtTreeMap

/-!
# Contexts

What a single invocation of a command is given: who invoked it and where, the arguments, the
builtin values, whether there are counts to ask for, and a source of random numbers.
-/

namespace ChatScript

/-- A builtin value is computed every time it is asked for. A supplier gives the answer to each
of the requests of one invocation, counted from 0. -/
abbrev Supplier := Nat → String

/-- How often each builtin has been asked for. -/
abbrev Calls := Std.ExtTreeMap String Nat

/-- The surroundings of one invocation. -/
structure Context where
  user : String
  channel : String
  command : String
  args : List String
  builtins : Std.ExtTreeMap String Supplier
  /-- Whether there are counts that `count()` can ask for. -/
  counted : Bool
  /-- The random numbers of the invocation, in the order they are drawn. -/
  random : Nat → Nat

/-- The names that no script can set, whether or not they have a value. -/
def standardNames : List String :=
  ["user", "channel", "command", "args", "game", "uptime", "ruser", "touser"]

namespace Context

/-- Adds a builtin, which replaces an earlier one of the same name. -/
def register (context : Context) (name : String) (supplier : Supplier) : Context :=
  { context with builtins := context.builtins.insert name supplier }

/-- Adds a builtin that always has the same value. -/
def registerValue (context : Context) (name value : String) : Context :=
  context.register name fun _ => value

/-- Adds fixed builtins, later ones in place of earlier ones. -/
def registerValues (context : Context) (values : List (String × String)) : Context :=
  values.foldl (fun context entry => context.registerValue entry.1 entry.2) context

/-- Registering a builtin changes no other name. -/
theorem get?_register (context : Context) (name : String) (supplier : Supplier) (other : String) :
    (context.register name supplier).builtins.get? other =
      if name = other then some supplier else context.builtins.get? other := by
  simp [register, Std.ExtTreeMap.getElem?_insert]

/-- Values are registered in order, so the last one of a name counts. -/
theorem registerValues_cons (context : Context) (name value : String)
    (values : List (String × String)) :
    context.registerValues ((name, value) :: values) =
      (context.register name fun _ => value).registerValues values :=
  rfl

/-- Registering values changes nothing but builtins. -/
theorem registerValues_eq (context : Context) (values : List (String × String)) :
    context.registerValues values =
      { context with builtins := (context.registerValues values).builtins } := by
  induction values generalizing context with
  | nil => rfl
  | cons entry values ih => exact ih (context.registerValue entry.1 entry.2)

/-- Registering values changes no name that is not among them. -/
theorem get?_registerValues_of_notMem {context : Context} {values : List (String × String)}
    {name : String} (absent : name ∉ values.map Prod.fst) :
    (context.registerValues values).builtins.get? name = context.builtins.get? name := by
  induction values generalizing context with
  | nil => rfl
  | cons entry values ih =>
      rw [List.map_cons, List.mem_cons, not_or] at absent
      rw [registerValues_cons, ih absent.2, get?_register, if_neg (Ne.symm absent.1)]

/-- Contexts agree on a builtin after the same values are registered, if they did before or it is
among the values. -/
theorem get?_registerValues_congr {first second : Context} {values : List (String × String)}
    {name : String}
    (same : name ∉ values.map Prod.fst → first.builtins.get? name = second.builtins.get? name) :
    (first.registerValues values).builtins.get? name =
      (second.registerValues values).builtins.get? name := by
  induction values generalizing first second with
  | nil => exact same List.not_mem_nil
  | cons entry values ih =>
      rw [registerValues_cons, registerValues_cons]
      refine ih fun absent => ?_
      rw [get?_register, get?_register]
      split
      case isTrue => rfl
      case isFalse different =>
        exact same (by simpa [absent] using Ne.symm different)

/-- The context of an invocation with the builtins `user`, `channel`, `command` and `args`, and
without counts. -/
def ofInvocation (user channel command : String) (args : List String) (random : Nat → Nat) :
    Context :=
  registerValues
    { user, channel, command, args, builtins := ∅, counted := false, random }
    [("user", user), ("channel", channel), ("command", command),
      ("args", String.intercalate " " args)]

/-- Whether a script may not set `name`. -/
def isReserved (context : Context) (name : String) : Bool :=
  standardNames.contains name || context.builtins.contains name

/-- The argument at a position counted from 1. -/
def argument? (context : Context) (position : Nat) : Option String :=
  if position = 0 then none else context.args[position - 1]?

/-- Asks for a builtin: its answer, and the calls including this one. -/
def ask? (context : Context) (calls : Calls) (name : String) : Option (String × Calls) :=
  (context.builtins.get? name).map fun supplier =>
    let earlier := (calls.get? name).getD 0
    (supplier earlier, calls.insert name (earlier + 1))

end Context

end ChatScript
