import GeoAccess.Authorization.Cache

/-!
# The authorization service

A running service: the two stores, the geometry engine, an optional answer
cache, and the wiring that carries the stores' change announcements to the
cache.

- Writes go to a store; the change a write announces is reported, and then
  delivered to the cache right away, queued until `deliverPending`, or, when
  nobody listens, neither reported nor delivered. A cache that never hears of
  a change keeps its stale answers.
- Queries go through the cache when there is one: a cached answer is given
  without asking the engine; a computed one is cached unless it failed.
  Matching rules are never cached. An access decision asks the engine for its
  admin part directly, so it never fills the admin cache.
-/

namespace GeoAccess

/-- How the stores' change announcements travel. -/
inductive Delivery where
  /-- Nobody listens: changes go unannounced. -/
  | unheard
  /-- Each change reaches the cache as soon as it is made. -/
  | immediate
  /-- Changes wait in a queue until they are delivered. -/
  | queued
  deriving DecidableEq, Repr

/-- An answer and whether the engine computed it, rather than the cache. -/
structure Computed (α : Type) where
  value : α
  computed : Bool

/-- A running service. -/
structure Service where
  rules : RuleStore := {}
  adminRules : AdminRuleStore := {}
  geometry : GeometryEngine
  cache : Option AnswerCache
  delivery : Delivery
  /-- Announced changes not yet delivered, oldest first. -/
  pending : List AclEvent := []

namespace Service

/-- The engine over the service's stores. -/
def engine (s : Service) : Engine :=
  { rules := s.rules, adminRules := s.adminRules, geometry := s.geometry }

/-- Hands a change to the cache, if there is one. -/
def handleEvent (s : Service) (e : AclEvent) : Service :=
  { s with cache := s.cache.map (·.handleEvent e) }

/-- Announces a write's change: the changes reported, and the service after
delivering or queueing them. -/
def announce (s : Service) : Option AclEvent → Service × List AclEvent
  | none => (s, [])
  | some e =>
    match s.delivery with
    | .unheard => (s, [])
    | .immediate => (s.handleEvent e, [e])
    | .queued => ({ s with pending := s.pending ++ [e] }, [e])

/-- Delivers the queued changes in order; answers how many there were. -/
def deliverPending (s : Service) : Service × Nat :=
  (s.pending.foldl handleEvent { s with pending := [] }, s.pending.length)

/-- Runs a write on the data rule store. -/
def writeRules {α : Type} (s : Service) (w : RuleStore → Except StoreError (Committed RuleStore α)) :
    Except StoreError α × List AclEvent × Service :=
  match w s.rules with
  | .ok c =>
    let (s', events) := { s with rules := c.store }.announce c.event
    (.ok c.answer, events, s')
  | .error e => (.error e, [], s)

/-- Runs a write on the admin rule store. -/
def writeAdminRules {α : Type} (s : Service)
    (w : AdminRuleStore → Except StoreError (Committed AdminRuleStore α)) :
    Except StoreError α × List AclEvent × Service :=
  match w s.adminRules with
  | .ok c =>
    let (s', events) := { s with adminRules := c.store }.announce c.event
    (.ok c.answer, events, s')
  | .error e => (.error e, [], s)

/-- The access decision on a request. -/
def access (s : Service) (q : AccessRequest) :
    Computed (Except AuthorizationError AccessInfo) × Service :=
  match s.cache with
  | none => (⟨s.engine.accessInfo q, true⟩, s)
  | some c =>
    match c.findAccess? q with
    | some i => (⟨.ok i, false⟩, s)
    | none =>
      match s.engine.accessInfo q with
      | .ok i => (⟨.ok i, true⟩, { s with cache := some (c.putAccess q i) })
      | .error e => (⟨.error e, true⟩, s)

/-- The admin decision on a request. -/
def adminAuthorization (s : Service) (q : AdminAccessRequest) :
    Computed AdminAccessInfo × Service :=
  match s.cache with
  | none => (⟨s.engine.adminAuthorization q, true⟩, s)
  | some c =>
    match c.findAdmin? q with
    | some i => (⟨i, false⟩, s)
    | none =>
      let i := s.engine.adminAuthorization q
      (⟨i, true⟩, { s with cache := some (c.putAdmin q i) })

/-- The rules that apply to a request. -/
def matchingRules (s : Service) (q : AccessRequest) : List Rule := s.engine.matchingRules q

end Service

end GeoAccess
