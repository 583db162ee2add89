import ChatScript.CommandLine.Terminal

/-!
# The program

The command line on the real disk and terminal.
-/

namespace ChatScript

/-- The cause of a failed operation on a real file. -/
def diskFault : IO.Error → DiskFault
  | .noFileOrDirectory .. => .notFound
  | .alreadyExists .. => .alreadyExists
  | .inappropriateType _ code details | .unsupportedOperation code details => ofCode code details
  | .invalidArgument _ code details | .resourceExhausted _ code details => ofCode code details
  | error => .other (toString error)
where
  /-- The cause that an error code of the system stands for. Some operations give the code with a
  minus sign. -/
  ofCode (code : UInt32) (details : String) : DiskFault :=
    let code := if code < 0x80000000 then code else 0 - code
    if code = 20 then .notDirectory
    else if code = 21 then .isDirectory
    else if code = 36 then .nameTooLong
    else .other (details ++ " (os error " ++ toString code ++ ")")

/-- The result of an operation on a real file. -/
def attempt {α : Type} (operation : IO α) : IO (Except DiskFault α) := do
  match ← operation.toBaseIO with
  | .ok result => pure (.ok result)
  | .error error => pure (.error (diskFault error))

/-- The real world: input and output, with the time in milliseconds at which the program began. -/
abbrev Real := ReaderT Nat IO

instance : Disk Real where
  read path := attempt (IO.FS.readFile path)
  write path content := attempt (IO.FS.writeFile path content)
  makeDirectory path := attempt (IO.FS.createDir path)
  -- The dot inside a directory cannot be made, because it is there; elsewhere it is not found.
  isDirectory path := do
    match ← attempt (IO.FS.createDir (path ++ "/.")) with
    | .error .alreadyExists => pure true
    | _ => pure false
  touch path := attempt do
    let _ ← IO.FS.Handle.mk path .append

instance : Console Real where
  input := do (← IO.getStdin).readToEnd
  print content := IO.print content
  report content := IO.eprint content

instance : World Real where
  moment := do
    let began ← read
    let now ← IO.monoMsNow
    let bytes ← IO.getRandomBytes 8
    let seed := bytes.toList.foldl (fun seed byte => 256 * seed + byte.toUInt64) 0
    pure (.ofSeed seed ((now - began) / 1000 : Nat))

namespace CommandLine

/-- How the program is to be called. -/
def usageText : String :=
  "Usage: botscript [--config PATH] [--log-file PATH] COMMAND\n\n" ++
  "Commands:\n" ++
  "  check [SCRIPT]   Parse a script and report the first error\n" ++
  "  fmt [SCRIPT]     Print a script in canonical form\n" ++
  "  run [SCRIPT] [-u USER] [--channel CHANNEL] [--command NAME] [-b NAME=VALUE]...\n" ++
  "      [-t] [--json] [--counters PATH] [-- ARGS...]\n" ++
  "                   Execute a script once\n" ++
  "  chat --commands PATH [--channel CHANNEL]\n" ++
  "                   Simulate a chat channel over stdin\n" ++
  "  config [--init]  Show the effective configuration\n"

/-- What the program says about itself. -/
def versionText : String :=
  "botscript 0.1.0\n"

/-- The exit code of a command line, after writing what is left to say. -/
def finish : Ending → IO UInt32
  | .exit code => pure code.toUInt32
  | .usage .help => do
    IO.print usageText
    pure 0
  | .usage .version => do
    IO.print versionText
    pure 0
  | .usage .wrong => do
    IO.eprint usageText
    pure 2

end CommandLine

end ChatScript

/-- Carries out a command line in the real world. -/
def main (words : List String) : IO UInt32 := do
  let stateHome ← IO.getEnv "BOTSCRIPT_HOME"
  let userHome ← IO.getEnv "HOME"
  let configFile ← IO.getEnv "BOTSCRIPT_CONFIG"
  let began ← IO.monoMsNow
  let response : ChatScript.Real ChatScript.CommandLine.Ending :=
    ChatScript.CommandLine.respond { stateHome, userHome, configFile } words
  ChatScript.CommandLine.finish (← response.run began)
