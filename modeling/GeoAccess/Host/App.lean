import GeoAccess.Host.Seed
import GeoAccess.Host.Config
import GeoAccess.Host.Cli
import GeoAccess.Authorization.Service
import GeoAccess.Decision.Info
import GeoAccess.Request

/-!
# The host program

One run of the host: read the command line, load the configuration, seed the
stores from the seed file, answer one query, and report the answer as JSON.

- The service runs without a geometry engine, so an access request whose
  matching rules need two areas combined fails; that failure carries a hint
  on how to write the rules instead.
- A run ends with exit status 0 and the answer, 1 and a failure report, or 2
  when the command line is refused. Asking for help also ends with 0, and
  with no answer.

Files are read through a reader in any monad: the run itself is pure, and a
caller may hand it real files or a table of texts.
-/

namespace GeoAccess.Host

/-- The service after start-up, its stores seeded from the configured seed
file. -/
def startService {m : Type → Type} [Monad m] (read : String → m (Except FileError String))
    (config : AclConfig) : m (Except Report Service) := do
  let stores : Except Report (RuleStore × AdminRuleStore) ←
    match config.rulesFile with
    | none => pure (.ok ({}, {}))
    | some path => do
      match ← read path with
      | .error e => pure (.error { chain := ["read rules file: " ++ path, e.message] })
      | .ok text =>
        match SeedFile.parse text with
        | .error e => pure (.error { chain := ["load rules file: " ++ path, "parse rules yaml", e.render] })
        | .ok seed => pure seed.apply
  return stores.map fun (rules, adminRules) =>
    { rules, adminRules, geometry := GeometryEngine.unsupported,
      cache := if config.cacheEnabled then some {} else none, delivery := .immediate }

/-- The failure of an access query, with a hint when two areas would have
had to be combined. -/
def accessFailure (e : AuthorizationError) : Report :=
  let hint := match e with
    | .evaluation (.geometry _) =>
      "evaluate access request: several matching rules restrict the area and geoacl cannot " ++
        "combine geometries; give at most one of them an allowed_area"
    | _ => "evaluate access request"
  { chain := [hint, e.message] }

/-- Answers one command. -/
def execute (svc : Service) : Command → Except Report Json
  | .access q =>
    match (svc.access q).1.value with
    | .ok info => .ok info.toJson
    | .error e => .error (accessFailure e)
  | .admin q => .ok (svc.adminAuthorization q).1.value.toJson
  | .matching q => .ok (.arr ((svc.matchingRules q).map Rule.toJson))
  | .rules l => .ok (.arr ((svc.rules.findAll { pageSize := l.pageSize, cursor := l.cursor }).map Rule.toJson))
  | .adminRules l =>
    .ok (.arr ((svc.adminRules.findAll { pageSize := l.pageSize, cursor := l.cursor }).map AdminRule.toJson))

/-- How a run ended. -/
structure RunOutcome where
  exit : Nat
  /-- The answer printed, on success. -/
  answer : Option Json := none
  /-- The failure report, on failure. -/
  report : Option Report := none

/-- One run of the host program on its arguments (the program's name left
out), its environment and its files. -/
def run {m : Type → Type} [Monad m] (read : String → m (Except FileError String)) (env : Environment)
    (args : List String) : m RunOutcome := do
  match Invocation.parse args with
  | .error .displayHelp => return { exit := 0 }
  | .error _ => return { exit := 2 }
  | .ok inv =>
    let configText ← match inv.config.or (env.lookup "GEOACL_CONFIG") with
      | some p => read p
      | none => pure (.error .notFound)
    let files : FileLookup := fun p =>
      if some p == inv.config.or (env.lookup "GEOACL_CONFIG") then configText else .error .notFound
    match AclConfig.load env files inv.config with
    | .error r => return { exit := 1, report := some (r.within "geoacl config") }
    | .ok config =>
      let config := match inv.rules with
        | some p => { config with rulesFile := some p }
        | none => config
      match ← startService read config with
      | .error r => return { exit := 1, report := some r }
      | .ok svc =>
        match execute svc inv.command with
        | .error r => return { exit := 1, report := some r }
        | .ok j => return { exit := 0, answer := some j }

end GeoAccess.Host
