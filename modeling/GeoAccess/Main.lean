import GeoAccess.Host.App

/-!
# The host executable

Reads the host's environment variables and files, runs the host once on the
command line, prints the answer as JSON on standard output or the failure on
standard error, and exits with the run's status.
-/

open GeoAccess GeoAccess.Host

/-- The environment variables the host reads. -/
def hostVariables : List String :=
  ["GEOACL_CONFIG", "GEOACL_RULES_FILE", "GEOACL_RULES_CACHE_MAX_ENTRIES",
   "GEOACL_RULES_CACHE_EXPIRE_AFTER_MS", "GEOACL_ADMIN_RULES_CACHE_MAX_ENTRIES",
   "GEOACL_ADMIN_RULES_CACHE_EXPIRE_AFTER_MS", "GEOACL_CACHE_ENABLED"]

/-- The failure the system gave for a read, by its error number and
description. -/
def systemFailure : IO.Error → Host.FileError
  | .alreadyExists _ code d | .otherError code d | .resourceBusy code d
  | .resourceVanished code d | .unsupportedOperation code d | .hardwareFault code d
  | .unsatisfiedConstraints code d | .illegalOperation code d | .protocolError code d
  | .timeExpired code d | .interrupted _ code d | .noFileOrDirectory _ code d
  | .invalidArgument _ code d | .permissionDenied _ code d | .resourceExhausted _ code d
  | .inappropriateType _ code d | .noSuchThing _ code d => .system code.toNat d
  | e => .system 0 (toString e)

/-- A file's text, or why it cannot be read: the path is checked, the file
read, then its bytes decoded. -/
def readText (path : String) : IO (Except Host.FileError String) := do
  match Host.checkPath path with
  | .error e => return .error e
  | .ok () =>
    try
      let bytes ← IO.FS.readBinFile path
      return Host.decodeText bytes
    catch e =>
      return .error (systemFailure e)

/-- The usage line shown for help and for a refused command line. -/
def usage : String :=
  "Usage: geoacl [--config <CONFIG>] [--rules <RULES>] <COMMAND>\n\n" ++
  "Commands: access, admin, matching, rules, admin-rules, help"

def main (args : List String) : IO UInt32 := do
  let env ← hostVariables.filterMapM fun k => do
    return (← IO.getEnv k).map fun v => (k, v)
  let outcome ← Host.run readText env args
  match outcome.answer with
  | some j => IO.println j.pretty
  | none => pure ()
  match outcome.report with
  | some r => IO.eprintln ("Error: " ++ r.detailed)
  | none => pure ()
  if outcome.exit == 2 then IO.eprintln usage
  else if outcome.exit == 0 && outcome.answer.isNone then IO.println usage
  return outcome.exit.toUInt32
