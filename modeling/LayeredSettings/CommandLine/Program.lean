import LayeredSettings.CommandLine.Help
import LayeredSettings.CommandLine.Run
import LayeredSettings.EnvironmentFile

/-!
# The program

A run of the whole program on an environment, files and words: variables are taken from the
environment file, the words are read, logging is set up, and the command is run.
-/

namespace LayeredSettings.CommandLine

/-- The variable that names a profile for every command. -/
def profileVariable : String := "PREFECT_PROFILE"

/-- The variable that fixes what is logged. -/
def levelVariable : String := "RUST_LOG"

/-- The home directory that an environment tells. -/
def homeOf (env : Environment) : Home :=
  ((env.get? "HOME").filter (· ≠ "")).map Path.mk

/-- How a run of the program ended: its exit code, what it printed, its error messages, whether its
log lines are JSON, what was reported to the journal, and the files it left. -/
structure Ending where
  exitCode : Nat
  printed : String
  errors : List String
  logJson : Bool
  journal : Journal
  files : Files

/-- The end of a run whose command line names nothing to run. -/
def Ending.ofUsage (fault : UsageFault) (files : Files) : Ending where
  exitCode := fault.exitCode
  printed := if fault.exitCode = doneCode then fault.message else ""
  errors := if fault.exitCode = doneCode then [] else [fault.message]
  logJson := false
  journal := .empty none
  files

/-- A command line run with logging set up. -/
def Invocation.ending (i : Invocation) (env : Environment) (state : LogState) (files : Files) :
    Ending :=
  let work := do
    Work.report [.loggingReady, .started]
    i.run (.builtin (homeOf env)) (env.withPrefix builtinPrefix) (env.get? levelVariable)
  match work { files, thread := .start state.filter } with
  | (.ok code, desk) => ⟨code, desk.printed, [], i.logJson, desk.thread.journal, desk.files⟩
  | (.error e, desk) =>
    ⟨failedCode, desk.printed, ["Error: " ++ e.message], i.logJson,
      desk.thread.journal.report [.commandFailed e], desk.files⟩

/-- The exit code of a run that broke off before its words were read. -/
def brokenCode : Nat := 101

/-- The program run on words in an environment that is complete. -/
def runWords (env : Environment) (files : Files) (words : List String) : Ending :=
  match Invocation.ofWords (env.get? profileVariable) words with
  | .error fault => .ofUsage fault files
  | .ok i =>
    match LogState.absent.setUp i.baseLevel (env.get? levelVariable) with
    | .error e =>
      let message := "Failed to initialize logging: " ++ e.message
      ⟨failedCode, "", [message], i.logJson, .empty none, files⟩
    | .ok state => i.ending env state files

/-- The program run on words, with the variables of the environment file. -/
def runProgram (env : Environment) (files : Files) (words : List String) : Ending :=
  match EnvironmentFile.load env files with
  | .ok env => runWords env files words
  | .error fault => ⟨brokenCode, "", [fault.message], false, .empty none, files⟩

end LayeredSettings.CommandLine
