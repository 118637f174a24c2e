import GeoAccess.Yaml.Read
import GeoAccess.Text.Numeral
import GeoAccess.Host.Report
import GeoAccess.Host.Files

/-!
# Host configuration

The host is configured from its environment, then from an optional YAML file
on top:

- `GEOACL_RULES_FILE` names the seed file;
- `GEOACL_RULES_CACHE_MAX_ENTRIES`, `GEOACL_RULES_CACHE_EXPIRE_AFTER_MS` and
  their `GEOACL_ADMIN_RULES_CACHE_*` counterparts are unsigned decimal
  numbers, read in that order, the first bad one refused;
- `GEOACL_CACHE_ENABLED` turns the cache on exactly for `1`, `true` and
  `yes`; unset, the cache is on;
- the YAML file, given by path or by `GEOACL_CONFIG`, may set `rules_file`,
  `rules_cache` and `admin_rules_cache` (each with `max_entries` and
  `expire_after_ms`) and `cache_enabled` (a YAML truth value only). A key it
  sets overrides the environment; other keys are passed over.

Files are read through a lookup that answers a file's text, or why it could
not be read (`FileError`).
-/

namespace GeoAccess.Host

open Yaml

/-- Limits of one answer cache; absent means unlimited. -/
structure CacheLimits where
  maxEntries : Option Nat := none
  expireAfterMs : Option Nat := none
  deriving DecidableEq, Repr

/-- The host's configuration. -/
structure AclConfig where
  rulesFile : Option String := none
  rulesCache : CacheLimits := {}
  adminRulesCache : CacheLimits := {}
  cacheEnabled : Bool := true
  deriving DecidableEq, Repr

/-- The environment: variables and their values. -/
abbrev Environment := List (String × String)

/-- The files the host can read: a path's text, or why it cannot be read. -/
abbrev FileLookup := String → Except FileError String

/-- An optional unsigned number from a variable. -/
def envNumber (env : Environment) (key : String) : Except Report (Option Nat) :=
  match env.lookup key with
  | none => .ok none
  | some v =>
    match Numeral.readUnsigned Numeral.u64Max v with
    | .ok n => .ok (some n)
    | .error e => .error { chain := ["parse " ++ key, e.message] }

/-- The limits of a cache from the variables with a prefix. -/
def cacheFromEnv (env : Environment) (pfx : String) : Except Report CacheLimits := do
  let maxEntries ← envNumber env (pfx ++ "_MAX_ENTRIES")
  let expireAfterMs ← envNumber env (pfx ++ "_EXPIRE_AFTER_MS")
  return { maxEntries, expireAfterMs }

/-- The configuration the environment gives. -/
def AclConfig.fromEnv (env : Environment) : Except Report AclConfig := do
  let rulesCache ← cacheFromEnv env "GEOACL_RULES_CACHE"
  let adminRulesCache ← cacheFromEnv env "GEOACL_ADMIN_RULES_CACHE"
  let cacheEnabled := match env.lookup "GEOACL_CACHE_ENABLED" with
    | some v => v == "1" || v == "true" || v == "yes"
    | none => true
  return { rulesFile := env.lookup "GEOACL_RULES_FILE", rulesCache, adminRulesCache, cacheEnabled }

/-- What a configuration file sets. -/
structure ConfigOverride where
  rulesFile : Option String := none
  rulesCache : Option CacheLimits := none
  adminRulesCache : Option CacheLimits := none
  cacheEnabled : Option Bool := none
  deriving Repr

/-- The refusal of a member met twice. -/
def duplicate (name : String) : YamlError := .msg (DecodeError.duplicateField name).message

/-- Reads one member of a cache's limits. -/
def limitsStep (d : Document) (acc : CacheLimits × List String) (k : String) (path : Path)
    (r : Reading) : Except YamlError ((CacheLimits × List String) × Reading) :=
  let (l, seen) := acc
  if k == "max_entries" || k == "expire_after_ms" then
    if k ∈ seen then .error (duplicate k)
    else (readOption readU64 d path r).map fun (v, r) =>
      ((if k == "max_entries" then { l with maxEntries := v } else { l with expireAfterMs := v },
        k :: seen), r)
  else (ignore d r).map fun r => (acc, r)

/-- Reads a cache's limits. -/
def readLimits (d : Document) (depth : Nat) (path : Path) (r : Reading) :
    Except YamlError (CacheLimits × Reading) :=
  readMap "struct CacheOverride" depth (({} : CacheLimits), ([] : List String))
    (fun _ acc k p r => limitsStep d acc k p r) (fun acc => .ok acc.1) d path r

/-- Reads one member of a configuration file. -/
def overrideStep (d : Document) (depth : Nat) (acc : ConfigOverride × List String) (k : String)
    (path : Path) (r : Reading) : Except YamlError ((ConfigOverride × List String) × Reading) :=
  let (o, seen) := acc
  let known := ["rules_file", "rules_cache", "admin_rules_cache", "cache_enabled"]
  if k ∈ known then
    if k ∈ seen then .error (duplicate k)
    else
      let seen := k :: seen
      match k with
      | "rules_file" =>
        (readOption (readStr "path string") d path r).map fun (v, r) => (({ o with rulesFile := v }, seen), r)
      | "rules_cache" =>
        (readOption (fun _ => readLimits d depth) d path r).map fun (v, r) => (({ o with rulesCache := v }, seen), r)
      | "admin_rules_cache" =>
        (readOption (fun _ => readLimits d depth) d path r).map fun (v, r) =>
          (({ o with adminRulesCache := v }, seen), r)
      | _ => (readOption readBool d path r).map fun (v, r) => (({ o with cacheEnabled := v }, seen), r)
  else (ignore d r).map fun r => (acc, r)

/-- Reads a configuration file's document. -/
def readOverride (d : Document) : Except YamlError ConfigOverride :=
  (readMap "struct AclConfigOverride" depthLimit (({} : ConfigOverride), ([] : List String))
    (fun depth acc k p r => overrideStep d depth acc k p r) (fun acc => .ok acc.1) d .root {}).map (·.1)

/-- Sets the limits a file gives over those the environment gave. -/
def CacheLimits.update (l : CacheLimits) (o : CacheLimits) : CacheLimits :=
  { maxEntries := o.maxEntries.or l.maxEntries, expireAfterMs := o.expireAfterMs.or l.expireAfterMs }

/-- Applies what a configuration file sets. -/
def AclConfig.update (c : AclConfig) (o : ConfigOverride) : AclConfig :=
  { rulesFile := o.rulesFile.or c.rulesFile
    rulesCache := match o.rulesCache with
      | some l => c.rulesCache.update l
      | none => c.rulesCache
    adminRulesCache := match o.adminRulesCache with
      | some l => c.adminRulesCache.update l
      | none => c.adminRulesCache
    cacheEnabled := o.cacheEnabled.getD c.cacheEnabled }

/-- The configuration from the environment and the file at `path`, or else
at `GEOACL_CONFIG`. -/
def AclConfig.load (env : Environment) (files : FileLookup) (path : Option String) :
    Except Report AclConfig := do
  let config ← AclConfig.fromEnv env
  match path.or (env.lookup "GEOACL_CONFIG") with
  | none => return config
  | some p =>
    match files p with
    | .error e => throw { chain := ["read GEOACL_CONFIG: " ++ p, e.message] }
    | .ok text =>
      match readSingle text readOverride with
      | .ok o => return config.update o
      | .error e => throw { chain := ["parse geoacl config yaml", e.render] }

end GeoAccess.Host
