import GeoAccess.Admin.Rule
import GeoAccess.Request
import GeoAccess.Proofs.PayloadsReadBack
import GeoAccess.Proofs.Signature
import GeoAccess.Proofs.Refusals

/-!
# Rules, admin rules and requests read back

A rule is one flat object: its own members (`ownMembers`), the members of its
identifier, and those of its access (the grant and the grant's payload). Its
reader takes the three apart by their keys, which no two parts share
(`Rule.mem_toJson_own`, `Rule.mem_toJson_ident`, `Rule.mem_toJson_access`),
and reads each with `members_obj`:

* the own members through `Rule.restrict` (`Rule.ownStep_restrict`);
* the dimensions through `RuleIdentifier.restrict`
  (`RuleIdentifier.identifierOf_eq`), the address range by its signature
  (`Decode.addressRange_render`);
* the grant, named once (`Decode.grantOf_none`), then its one payload member
  (`Decode.members_payload`, `Access.accessOf_eq`).

An admin rule is read the same way from its own members and its identifier
(`AdminRule.adminRule_toJson`), a request from its parts
(`AccessRequest.accessRequest_toJson`). Each holds when the value is one the
document form carries (`WellFormed`): 64-bit identifiers, priorities that fit
the signed 64-bit numbers, well-formed payloads, sets kept ascending without
repeats. `records_read_back` states the three together.
-/

namespace GeoAccess

theorem Decode.addressRange_render (r : AddressRange) : addressRange (.str r.render) = .ok r := by
  simp [addressRange, AddressRange.parse_render r, bind, Except.bind, pure, Except.pure]

namespace RuleIdentifier

/-- The dimensions of `i` that `p` names, and the wildcard elsewhere. -/
def restrict (i : RuleIdentifier) (p : String → Bool) : RuleIdentifier where
  instanceName := if p "instance" then i.instanceName else none
  username := if p "username" then i.username else none
  rolename := if p "rolename" then i.rolename else none
  service := if p "service" then i.service else none
  request := if p "request" then i.request else none
  subfield := if p "subfield" then i.subfield else none
  workspace := if p "workspace" then i.workspace else none
  layer := if p "layer" then i.layer else none
  addressRange := if p "address_range" then i.addressRange else none

theorem mem_members_keys {i : RuleIdentifier} {k : String} {o : Option Json} (h : (k, o) ∈ i.members) :
    k ∈ Decode.identifierKeys := by
  simp only [members, List.mem_cons, Prod.mk.injEq, List.not_mem_nil, or_false] at h
  simp only [Decode.identifierKeys, List.mem_cons, List.not_mem_nil, or_false]
  rcases h with ⟨rfl, -⟩ | ⟨rfl, -⟩ | ⟨rfl, -⟩ | ⟨rfl, -⟩ | ⟨rfl, -⟩ | ⟨rfl, -⟩ | ⟨rfl, -⟩ | ⟨rfl, -⟩ |
    ⟨rfl, -⟩ <;> simp

/-- Reading one member of a written identifier adds it to the identifier read
so far; every dimension is an optional text. -/
theorem identifierStep_restrict {i : RuleIdentifier} {k : String} {j : Json}
    (hkj : (k, some j) ∈ i.members) (p : String → Bool) :
    Decode.identifierStep (i.restrict p) k (Datum.ofJson j) = .ok (i.restrict fun k' => k' == k || p k') := by
  simp only [members, List.mem_cons, Prod.mk.injEq, List.not_mem_nil, or_false] at hkj
  rcases hkj with ⟨rfl, hj⟩ | ⟨rfl, hj⟩ | ⟨rfl, hj⟩ | ⟨rfl, hj⟩ | ⟨rfl, hj⟩ | ⟨rfl, hj⟩ | ⟨rfl, hj⟩ |
    ⟨rfl, hj⟩ | ⟨rfl, hj⟩
  on_goal 9 =>
    obtain ⟨a, ha, rfl⟩ := Option.map_eq_some_iff.mp hj.symm
    simp [restrict, Decode.identifierStep, ha, Decode.addressRange_render a, Functor.map, Except.map]
  all_goals
    obtain ⟨s, hs, rfl⟩ := Option.map_eq_some_iff.mp hj.symm
    simp [restrict, Decode.identifierStep, hs, Functor.map, Except.map]

theorem restrict_of_keys {i : RuleIdentifier} {ks : List String}
    (hks : ∀ k ∈ Decode.identifierKeys, k ∈ ks ↔ ∃ j, (k, some j) ∈ i.members) :
    i.restrict (fun k => Decode.identifierKeys.contains k && ks.contains k) = i := by
  rw [known_contains_eq_lookup (by simp [members]) (fun _ hkv => mem_members_keys hkv) hks]
  cases i
  simp only [restrict, ← Bool.cond_eq_ite]
  simp only [members, List.lookup_cons, String.reduceBEq, Option.join_some, Option.isSome_map,
    cond_isSome_self]

theorem identifierOf_eq {i : RuleIdentifier} {zs : List (String × Json)}
    (hnodup : (zs.map (·.1)).Nodup)
    (hzs : ∀ kv : String × Json, kv.1 ∈ Decode.identifierKeys → (kv ∈ zs ↔ (kv.1, some kv.2) ∈ i.members)) :
    Decode.identifierOf (zs.map fun kv => (kv.1, Datum.ofJson kv.2)) = .ok i := by
  have hinit : i.restrict (fun _ => false) = {} := rfl
  exact members_obj hinit hnodup (fun kv hkv hk p => identifierStep_restrict ((hzs kv hk).mp hkv) p)
    (restrict_of_keys fun k hk => mem_keys_of_iff fun j => hzs (k, j) hk)

end RuleIdentifier

namespace Decode

@[simp] theorem variant_grant_name (g : Grant) : variant Grant.named (.str g.name) = .ok g := by
  cases g <;> rfl

/-- Once the grant is found, the rest only has to name no second one. -/
theorem grantOf_some {g : Grant} {fields : List (String × Datum)} (h : "grant" ∉ fields.map (·.1)) :
    grantOf (some g) fields = .ok g := by
  induction fields with
  | nil => rfl
  | cons kv fields ih =>
    obtain ⟨k, v⟩ := kv
    simp only [List.map_cons, List.mem_cons, not_or] at h
    rw [grantOf, if_neg (Ne.symm h.1)]
    exact ih h.2

/-- The grant named once among members is the grant found. -/
theorem grantOf_none {g : Grant} {fields : List (String × Datum)} (hnodup : (fields.map (·.1)).Nodup)
    {v : Datum} (hmem : ("grant", v) ∈ fields) (hg : variant Grant.named v = .ok g) :
    grantOf none fields = .ok g := by
  induction fields with
  | nil => cases hmem
  | cons kv fields ih =>
    obtain ⟨k, v'⟩ := kv
    simp only [List.map_cons, List.nodup_cons] at hnodup
    rw [grantOf]
    by_cases hk : k = "grant"
    · subst hk
      have hv : v' = v := by
        rcases List.mem_cons.mp hmem with heq | hrest
        · exact (Prod.mk.inj heq).2.symm
        · exact absurd (List.mem_map_of_mem (f := (·.1)) hrest) hnodup.1
      subst hv
      simp [hg, grantOf_some hnodup.1]
    · rw [if_neg hk]
      exact ih hnodup.2 ((List.mem_cons.mp hmem).resolve_left fun h => hk (Prod.mk.inj h).1.symm)

/-- A grant's one payload member reads as the payload, absent when it is. -/
theorem members_payload {α : Type} {dec : Decoder α} {enc : α → Json} {key : String} {o : Option α}
    (hread : ∀ x ∈ o, option dec (Datum.ofJson (enc x)) = .ok (some x))
    {zs : List (String × Json)} (hnodup : (zs.map (·.1)).Nodup)
    (hzs : ∀ j, (key, j) ∈ zs ↔ o.map enc = some j) :
    members [key] (fun _ _ v => option dec v) none [] (byName (zs.map fun kv => (kv.1, Datum.ofJson kv.2))) =
      .ok o := by
  refine @members_obj _ _ _ (fun p => if p key then o else none) _ _ _ rfl hnodup ?_ ?_
  · rintro ⟨k, j⟩ hkv hk p
    simp only [List.mem_singleton] at hk
    subst hk
    obtain ⟨x, hx, rfl⟩ := Option.map_eq_some_iff.mp ((hzs j).mp hkv)
    simp [hread x hx, hx]
  · by_cases hk : key ∈ zs.map (·.1)
    · simp [hk]
    · cases o with
      | none => simp
      | some x =>
        exact absurd (List.mem_map_of_mem (f := (·.1)) ((hzs (enc x)).mpr rfl)) hk

end Decode

namespace Access

/-- An access the document form carries: its payload does. -/
def WellFormed : Access → Prop
  | .allow d => ∀ x ∈ d, x.WellFormed
  | .deny => True
  | .limit l => ∀ x ∈ l, x.WellFormed

theorem grant_mem_members (a : Access) : ("grant", some (.str a.grant.name)) ∈ a.members := by
  cases a <;> simp [members, grant, Grant.name]

/-- An access reads back from its own members: the grant named among them, and
the payload from what is left once the grant is taken out. -/
theorem accessOf_eq {a : Access} (ha : a.WellFormed) {zs : List (String × Json)}
    (hnodup : (zs.map (·.1)).Nodup) (hzs : ∀ kv : String × Json, kv ∈ zs ↔ (kv.1, some kv.2) ∈ a.members) :
    Decode.accessOf (zs.map fun kv => (kv.1, Datum.ofJson kv.2)) = .ok a := by
  have hnodup' : ((zs.map fun kv => (kv.1, Datum.ofJson kv.2)).map (·.1)).Nodup := by
    rw [List.map_map]
    exact hnodup
  have hgrant : Decode.grantOf none (zs.map fun kv => (kv.1, Datum.ofJson kv.2)) = .ok a.grant :=
    Decode.grantOf_none hnodup' (List.mem_map_of_mem ((hzs ("grant", .str a.grant.name)).mpr (grant_mem_members a)))
      (by simp)
  have hpayload : (zs.map fun kv => (kv.1, Datum.ofJson kv.2)).filter (·.1 != "grant") =
      (zs.filter (·.1 != "grant")).map fun kv => (kv.1, Datum.ofJson kv.2) := by
    simp [List.filter_map, Function.comp_def]
  have hnodup'' : ((zs.filter (·.1 != "grant")).map (·.1)).Nodup := (List.filter_sublist.map _).nodup hnodup
  simp only [Decode.accessOf, hgrant, hpayload, bind, Except.bind]
  cases a with
  | allow d =>
    simp only [grant]
    rw [Decode.members_payload (fun x hx => Decode.option_layerDetails (ha x hx)) hnodup'' fun j => ?_]
    · rfl
    · simp [hzs, members, eq_comm (a := some j)]
  | deny => rfl
  | limit l =>
    simp only [grant]
    rw [Decode.members_payload (fun x hx => Decode.option_ruleLimits (ha x hx)) hnodup'' fun j => ?_]
    · rfl
    · simp [hzs, members, eq_comm (a := some j)]

theorem mem_members_keys {a : Access} {k : String} {o : Option Json} (h : (k, o) ∈ a.members) :
    k = "grant" ∨ k = "layer_details" ∨ k = "limits" := by
  cases a <;> simp only [members, List.mem_cons, Prod.mk.injEq, List.not_mem_nil, or_false] at h
  · rcases h with ⟨rfl, -⟩ | ⟨rfl, -⟩ <;> simp
  · simp [h.1]
  · rcases h with ⟨rfl, -⟩ | ⟨rfl, -⟩ <;> simp

/-- The members of an access are neither a rule's own members nor its
dimensions. -/
theorem key_apart {a : Access} {k : String} {o : Option Json} (h : (k, o) ∈ a.members) :
    k ∉ Decode.ownKeys ∧ k ∉ Decode.identifierKeys := by
  rcases mem_members_keys h with rfl | rfl | rfl <;> decide

end Access

/-- A rule's own members are none of its dimensions. -/
theorem Decode.not_identifierKey_of_own {k : String} (hk : k ∈ ownKeys) : k ∉ identifierKeys :=
  (by decide : ∀ k ∈ ownKeys, k ∉ identifierKeys) k hk

/-- A priority that fits reads back: one of no sign is written as a whole
number, a negative one as a signed integer. -/
theorem Decode.i64_int {p : Int} (hp : Priority.Fits p) : i64 (Datum.ofJson (.int p)) = .ok p := by
  have hbounds : -(Int.pow 2 63) ≤ p ∧ p ≤ Int.pow 2 63 - 1 := hp
  simp only [Datum.ofJson, Datum.ofInt]
  split
  · rename_i h
    rw [← Int.toNat_of_nonneg h] at hbounds
    rw [i64, integer_nat hbounds, Int.toNat_of_nonneg h]
  · rw [i64, integer, if_pos hbounds]

/-- The members a rule and an admin rule both start with. -/
def ownMembers (id : Option Nat) (externalId name description : Option String) (priority : Int) :
    List (String × Option Json) :=
  [("id", id.map Json.nat), ("external_id", externalId.map .str), ("name", name.map .str),
    ("description", description.map .str), ("priority", some (.int priority))]

theorem mem_ownMembers_keys {id : Option Nat} {externalId name description : Option String} {priority : Int}
    {k : String} {o : Option Json} (h : (k, o) ∈ ownMembers id externalId name description priority) :
    k ∈ Decode.ownKeys := by
  simp only [ownMembers, List.mem_cons, Prod.mk.injEq, List.not_mem_nil, or_false] at h
  rcases h with ⟨rfl, -⟩ | ⟨rfl, -⟩ | ⟨rfl, -⟩ | ⟨rfl, -⟩ | ⟨rfl, -⟩ <;> simp [Decode.ownKeys]

namespace Rule

/-- A rule the document form carries: a 64-bit identifier, a priority that fits
the signed 64-bit numbers and a well-formed payload. -/
structure WellFormed (r : Rule) : Prop where
  id_lt : ∀ n ∈ r.id, n < Nat.pow 2 64
  priority_fits : Priority.Fits r.priority
  access : r.access.WellFormed

theorem toJson_eq (r : Rule) :
    r.toJson = .present (ownMembers r.id r.externalId r.name r.description r.priority ++
      r.ident.members ++ r.access.members) := rfl

theorem nodup_keys (r : Rule) :
    ((ownMembers r.id r.externalId r.name r.description r.priority ++ r.ident.members ++
      r.access.members).map (·.1)).Nodup := by
  cases r.access <;> simp [ownMembers, RuleIdentifier.members, Access.members]

section Members

variable {r : Rule} {fs : List (String × Json)} (hfs : r.toJson = .obj fs) {kv : String × Json}
include hfs

theorem mem_toJson :
    kv ∈ fs ↔ (kv.1, some kv.2) ∈ ownMembers r.id r.externalId r.name r.description r.priority ∨
      (kv.1, some kv.2) ∈ r.ident.members ∨ (kv.1, some kv.2) ∈ r.access.members := by
  rw [toJson_eq] at hfs
  rw [mem_present hfs, List.mem_append, List.mem_append, or_assoc]

theorem mem_toJson_own (hk : kv.1 ∈ Decode.ownKeys) :
    kv ∈ fs ↔ (kv.1, some kv.2) ∈ ownMembers r.id r.externalId r.name r.description r.priority := by
  rw [mem_toJson hfs]
  refine ⟨fun h => h.resolve_right fun h' => ?_, Or.inl⟩
  rcases h' with h' | h'
  · exact Decode.not_identifierKey_of_own hk (RuleIdentifier.mem_members_keys h')
  · exact (Access.key_apart h').1 hk

theorem mem_toJson_ident (hk : kv.1 ∈ Decode.identifierKeys) :
    kv ∈ fs ↔ (kv.1, some kv.2) ∈ r.ident.members := by
  rw [mem_toJson hfs]
  refine ⟨fun h => ?_, fun h => Or.inr (Or.inl h)⟩
  rcases h with h | h | h
  · exact absurd hk (Decode.not_identifierKey_of_own (mem_ownMembers_keys h))
  · exact h
  · exact absurd hk (Access.key_apart h).2

theorem mem_toJson_access (hown : kv.1 ∉ Decode.ownKeys) (hident : kv.1 ∉ Decode.identifierKeys) :
    kv ∈ fs ↔ (kv.1, some kv.2) ∈ r.access.members := by
  rw [mem_toJson hfs]
  refine ⟨fun h => ?_, fun h => Or.inr (Or.inr h)⟩
  rcases h with h | h | h
  · exact absurd (mem_ownMembers_keys h) hown
  · exact absurd (RuleIdentifier.mem_members_keys h) hident
  · exact h

end Members

/-- The own members of `r` that `p` names, on a DENY rule with every dimension
open: the rule read before its dimensions and grant. -/
def restrict (r : Rule) (p : String → Bool) : Rule :=
  { Rule.ofGrant .deny with
    id := if p "id" then r.id else none
    externalId := if p "external_id" then r.externalId else none
    name := if p "name" then r.name else none
    description := if p "description" then r.description else none
    priority := if p "priority" then r.priority else 0 }

theorem ownStep_restrict {r : Rule} (hr : r.WellFormed) {k : String} {j : Json}
    (hkj : (k, some j) ∈ ownMembers r.id r.externalId r.name r.description r.priority) (p : String → Bool) :
    Decode.ownStep (r.restrict p) k (Datum.ofJson j) = .ok (r.restrict fun k' => k' == k || p k') := by
  simp only [ownMembers, List.mem_cons, Prod.mk.injEq, Option.some.injEq, List.not_mem_nil, or_false] at hkj
  rcases hkj with ⟨rfl, hj⟩ | ⟨rfl, hj⟩ | ⟨rfl, hj⟩ | ⟨rfl, hj⟩ | ⟨rfl, rfl⟩
  · obtain ⟨n, hn, rfl⟩ := Option.map_eq_some_iff.mp hj.symm
    simp [restrict, Decode.ownStep, hn, Decode.u64_nat (hr.id_lt n hn), Functor.map,
      Except.map]
  · obtain ⟨s, hs, rfl⟩ := Option.map_eq_some_iff.mp hj.symm
    simp [restrict, Decode.ownStep, hs, Functor.map, Except.map]
  · obtain ⟨s, hs, rfl⟩ := Option.map_eq_some_iff.mp hj.symm
    simp [restrict, Decode.ownStep, hs, Functor.map, Except.map]
  · obtain ⟨s, hs, rfl⟩ := Option.map_eq_some_iff.mp hj.symm
    simp [restrict, Decode.ownStep, hs, Functor.map, Except.map]
  · simp [restrict, Decode.ownStep, Decode.i64_int hr.priority_fits, Functor.map, Except.map]

theorem restrict_keys {r : Rule} {ks : List String}
    (hks : ∀ k ∈ Decode.ownKeys, k ∈ ks ↔ ∃ j, (k, some j) ∈ ownMembers r.id r.externalId r.name r.description r.priority) :
    r.restrict (fun k => Decode.ownKeys.contains k && ks.contains k) = { r with ident := {}, access := .deny } := by
  rw [known_contains_eq_lookup (by simp [ownMembers]) (fun _ hkv => mem_ownMembers_keys hkv) hks]
  cases r
  simp only [restrict, ← Bool.cond_eq_ite]
  simp only [ownMembers, List.lookup_cons, String.reduceBEq, Option.join_some, Option.isSome_map,
    Option.isSome_some, cond_true, cond_isSome_self]
  rfl

/-- A well-formed rule reads back from its text: its own members from every
member, its dimensions from the members that are not its own, and its grant and
payload from those that are neither. -/
theorem rule_toJson {r : Rule} (hr : r.WellFormed) : Decode.rule (Datum.ofJson r.toJson) = .ok r := by
  obtain ⟨fs, hfs⟩ : ∃ fs, r.toJson = .obj fs := ⟨_, rfl⟩
  have hnodup : (fs.map (·.1)).Nodup := nodup_present (nodup_keys r) ((toJson_eq r).symm.trans hfs)
  have hown : Decode.members Decode.ownKeys Decode.ownStep (Rule.ofGrant .deny) []
      (Decode.byName (fs.map fun kv => (kv.1, Datum.ofJson kv.2))) = .ok { r with ident := {}, access := .deny } := by
    exact members_obj rfl hnodup (fun kv hkv hk p => ownStep_restrict hr ((mem_toJson_own hfs hk).mp hkv) p)
      (restrict_keys fun k hk => mem_keys_of_iff fun j => mem_toJson_own hfs hk)
  have hident : Decode.identifierOf ((fs.map fun kv => (kv.1, Datum.ofJson kv.2)).filter (·.1 ∉ Decode.ownKeys)) =
      .ok r.ident := by
    rw [List.filter_map]
    refine RuleIdentifier.identifierOf_eq ((List.filter_sublist.map _).nodup hnodup) fun kv hk => ?_
    have hnot : kv.1 ∉ Decode.ownKeys := fun h => Decode.not_identifierKey_of_own h hk
    simp [List.mem_filter, mem_toJson_ident hfs hk, hnot]
  have haccess : Decode.accessOf (((fs.map fun kv => (kv.1, Datum.ofJson kv.2)).filter (·.1 ∉ Decode.ownKeys)).filter
      (·.1 ∉ Decode.identifierKeys)) = .ok r.access := by
    rw [List.filter_map, List.filter_map]
    refine Access.accessOf_eq hr.access (((List.filter_sublist.trans List.filter_sublist).map _).nodup hnodup)
      fun kv => ?_
    simp only [List.mem_filter, Function.comp_apply, decide_eq_true_eq]
    constructor
    · rintro ⟨⟨hkv, hown⟩, hident⟩
      exact (mem_toJson_access hfs hown hident).mp hkv
    · intro h
      obtain ⟨hown, hident⟩ := Access.key_apart h
      exact ⟨⟨(mem_toJson_access hfs hown hident).mpr h, hown⟩, hident⟩
  rw [hfs, Datum.ofJson_obj]
  simp only [Decode.rule, Decode.object, Decode.ruleOf, Decode.textKeyed_byName, bind, Except.bind, hown, hident,
    haccess]
  rfl

end Rule

@[simp] theorem Decode.adminGrant_name (g : AdminGrant) : adminGrant (.str g.name) = .ok g := by
  cases g <;> rfl

namespace AdminIdentifier

/-- The members an admin identifier is written as. -/
def members (i : AdminIdentifier) : List (String × Option Json) :=
  [("instance", i.instanceName.map .str), ("username", i.username.map .str),
    ("rolename", i.rolename.map .str), ("workspace", i.workspace.map .str),
    ("access", some (.str i.access.name))]

/-- The members of `i` that `p` names, as the reader of an admin identifier
holds them: the access apart, as it is required. -/
def parts (i : AdminIdentifier) (p : String → Bool) : AdminIdentifier × Option AdminGrant :=
  ({ instanceName := if p "instance" then i.instanceName else none
     username := if p "username" then i.username else none
     rolename := if p "rolename" then i.rolename else none
     workspace := if p "workspace" then i.workspace else none
     access := .user }, if p "access" then some i.access else none)

theorem mem_members_keys {i : AdminIdentifier} {k : String} {o : Option Json} (h : (k, o) ∈ i.members) :
    k ∈ ["instance", "username", "rolename", "workspace", "access"] := by
  simp only [members, List.mem_cons, Prod.mk.injEq, List.not_mem_nil, or_false] at h
  rcases h with ⟨rfl, -⟩ | ⟨rfl, -⟩ | ⟨rfl, -⟩ | ⟨rfl, -⟩ | ⟨rfl, -⟩ <;> simp

theorem adminIdentifierStep_parts {i : AdminIdentifier} {k : String} {j : Json} (hkj : (k, some j) ∈ i.members)
    (p : String → Bool) :
    Decode.adminIdentifierStep (i.parts p) k (Datum.ofJson j) = .ok (i.parts fun k' => k' == k || p k') := by
  simp only [members, List.mem_cons, Prod.mk.injEq, Option.some.injEq, List.not_mem_nil, or_false] at hkj
  rcases hkj with ⟨rfl, hj⟩ | ⟨rfl, hj⟩ | ⟨rfl, hj⟩ | ⟨rfl, hj⟩ | ⟨rfl, rfl⟩
  on_goal 5 => simp [parts, Decode.adminIdentifierStep, Functor.map, Except.map]
  all_goals
    obtain ⟨s, hs, rfl⟩ := Option.map_eq_some_iff.mp hj.symm
    simp [parts, Decode.adminIdentifierStep, hs, Functor.map, Except.map]

theorem parts_keys {i : AdminIdentifier} {ks : List String}
    (hks : ∀ k ∈ ["instance", "username", "rolename", "workspace", "access"], k ∈ ks ↔ ∃ j, (k, some j) ∈ i.members) :
    i.parts (fun k => ["instance", "username", "rolename", "workspace", "access"].contains k && ks.contains k) =
      ({ i with access := .user }, some i.access) := by
  rw [known_contains_eq_lookup (by simp [members]) (fun _ hkv => mem_members_keys hkv) hks]
  cases i
  simp only [parts, ← Bool.cond_eq_ite]
  simp only [members, List.lookup_cons, String.reduceBEq, Option.join_some, Option.isSome_map,
    Option.isSome_some, cond_true, cond_isSome_self]

theorem adminIdentifierOf_eq {i : AdminIdentifier} {zs : List (String × Json)} (hnodup : (zs.map (·.1)).Nodup)
    (hzs : ∀ kv : String × Json, kv.1 ∈ ["instance", "username", "rolename", "workspace", "access"] →
      (kv ∈ zs ↔ (kv.1, some kv.2) ∈ i.members)) :
    Decode.adminIdentifierOf (zs.map fun kv => (kv.1, Datum.ofJson kv.2)) = .ok i := by
  have hinit : i.parts (fun _ => false) = ({ access := .user }, none) := rfl
  simp only [Decode.adminIdentifierOf, bind, Except.bind]
  rw [members_obj hinit hnodup (fun kv hkv hk p => adminIdentifierStep_parts ((hzs kv hk).mp hkv) p)
    (parts_keys fun k hk => mem_keys_of_iff fun j => hzs (k, j) hk)]
  rfl

end AdminIdentifier

namespace AdminRule

/-- An admin rule the document form carries: a 64-bit identifier and a
priority that fits the signed 64-bit numbers. -/
structure WellFormed (r : AdminRule) : Prop where
  id_lt : ∀ n ∈ r.id, n < Nat.pow 2 64
  priority_fits : Priority.Fits r.priority

theorem toJson_eq (r : AdminRule) :
    r.toJson = .present (ownMembers r.id r.externalId r.name r.description r.priority ++ r.ident.members) := rfl

/-- The own members of `r` that `p` names, on a USER rule with every dimension
open. -/
def restrict (r : AdminRule) (p : String → Bool) : AdminRule :=
  { AdminRule.ofGrant .user with
    id := if p "id" then r.id else none
    externalId := if p "external_id" then r.externalId else none
    name := if p "name" then r.name else none
    description := if p "description" then r.description else none
    priority := if p "priority" then r.priority else 0 }

/-- A well-formed admin rule reads back from its text: each member is the
rule's own or its identifier's, as the keys say, and is read where it stands. -/
theorem adminRule_toJson {r : AdminRule} (hr : r.WellFormed) :
    Decode.adminRule (Datum.ofJson r.toJson) = .ok r := by
  obtain ⟨fs, hfs⟩ : ∃ fs, r.toJson = .obj fs := ⟨_, rfl⟩
  rw [toJson_eq] at hfs
  have hnodup : (fs.map (·.1)).Nodup := nodup_present (by simp [ownMembers, AdminIdentifier.members]) hfs
  have hmem : ∀ kv : String × Json, kv ∈ fs ↔
      (kv.1, some kv.2) ∈ ownMembers r.id r.externalId r.name r.description r.priority ∨
        (kv.1, some kv.2) ∈ r.ident.members := by
    intro kv
    rw [mem_present hfs, List.mem_append]
  have hapart : ∀ k ∈ Decode.ownKeys, k ∉ ["instance", "username", "rolename", "workspace", "access"] := by
    decide
  have hown : ∀ kv : String × Json, kv.1 ∈ Decode.ownKeys →
      (kv ∈ fs ↔ (kv.1, some kv.2) ∈ ownMembers r.id r.externalId r.name r.description r.priority) := by
    intro kv hk
    rw [hmem]
    exact ⟨fun h => h.resolve_right fun h' => hapart _ hk (AdminIdentifier.mem_members_keys h'), Or.inl⟩
  have hinit : r.restrict (fun _ => false) = AdminRule.ofGrant .user := rfl
  have hkeys : r.restrict (fun k => Decode.ownKeys.contains k && (fs.map (·.1)).contains k) =
      { r with ident := { access := .user } } := by
    have hks : ∀ k ∈ Decode.ownKeys, k ∈ fs.map (·.1) ↔
        ∃ j, (k, some j) ∈ ownMembers r.id r.externalId r.name r.description r.priority :=
      fun k hk => mem_keys_of_iff fun j => hown (k, j) hk
    rw [known_contains_eq_lookup (by simp [ownMembers]) (fun _ hkv => mem_ownMembers_keys hkv) hks]
    cases r
    simp only [restrict, ← Bool.cond_eq_ite]
    simp only [ownMembers, List.lookup_cons, String.reduceBEq, Option.join_some, Option.isSome_map,
      Option.isSome_some, cond_true, cond_isSome_self]
    rfl
  have hident : Decode.adminIdentifierOf ((fs.map fun kv => (kv.1, Datum.ofJson kv.2)).filter
      (·.1 ∉ Decode.ownKeys)) = .ok r.ident := by
    rw [List.filter_map]
    refine AdminIdentifier.adminIdentifierOf_eq ((List.filter_sublist.map _).nodup hnodup) fun kv hk => ?_
    have hnot : kv.1 ∉ Decode.ownKeys := fun h => hapart _ h hk
    rw [List.mem_filter, hmem]
    simp only [Function.comp_apply, hnot, not_false_eq_true, decide_true, and_true]
    exact ⟨fun h => h.resolve_left fun h' => hnot (mem_ownMembers_keys h'), Or.inr⟩
  rw [toJson_eq, hfs, Datum.ofJson_obj]
  simp only [Decode.adminRule, Decode.object, Decode.adminRuleOf, Decode.textKeyed_byName, bind, Except.bind]
  rw [members_obj hinit hnodup ?_ hkeys]
  · simp only [hident]
    rfl
  intro kv hkv hk p
  have hkj := (hown kv hk).mp hkv
  obtain ⟨k, j⟩ := kv
  simp only [ownMembers, List.mem_cons, Prod.mk.injEq, Option.some.injEq, List.not_mem_nil, or_false] at hkj
  rcases hkj with ⟨rfl, hj⟩ | ⟨rfl, hj⟩ | ⟨rfl, hj⟩ | ⟨rfl, hj⟩ | ⟨rfl, rfl⟩
  · obtain ⟨n, hn, rfl⟩ := Option.map_eq_some_iff.mp hj.symm
    simp [restrict, hn, Decode.u64_nat (hr.id_lt n hn), pure, Except.pure, Except.map]
  on_goal 4 => simp [restrict, Decode.i64_int hr.priority_fits, pure, Except.pure]
  all_goals
    obtain ⟨s, hs, rfl⟩ := Option.map_eq_some_iff.mp hj.symm
    simp [restrict, hs, pure, Except.pure, Except.map]

end AdminRule

namespace AccessRequest

/-- A request the document form carries: its roles ascending without
repeats. -/
def WellFormed (q : AccessRequest) : Prop := q.roles.Pairwise (· < ·)

/-- The parts of `q` that `p` names, and nothing elsewhere. -/
def restrict (q : AccessRequest) (p : String → Bool) : AccessRequest where
  user := if p "user" then q.user else none
  roles := if p "roles" then q.roles else []
  instanceName := if p "instance" then q.instanceName else none
  sourceAddress := if p "source_address" then q.sourceAddress else none
  service := if p "service" then q.service else none
  request := if p "request" then q.request else none
  subfield := if p "subfield" then q.subfield else none
  workspace := if p "workspace" then q.workspace else none
  layer := if p "layer" then q.layer else none

/-- Reading one member of a written request adds it to the request read so
far: the roles as the set they already are, every other part as an optional
text. -/
theorem requestStep_restrict {q : AccessRequest} (hq : q.WellFormed) {fs : List (String × Json)}
    (hfs : q.toJson = .obj fs) {kv : String × Json} (hkv : kv ∈ fs) (p : String → Bool) :
    Decode.requestStep (q.restrict p) kv.1 (Datum.ofJson kv.2) = .ok (q.restrict fun k => k == kv.1 || p k) := by
  obtain ⟨k, j⟩ := kv
  rw [mem_present hfs] at hkv
  simp only [List.mem_cons, Prod.mk.injEq, List.not_mem_nil, or_false] at hkv
  rcases hkv with ⟨rfl, hj⟩ | ⟨rfl, hj⟩ | ⟨rfl, hj⟩ | ⟨rfl, hj⟩ | ⟨rfl, hj⟩ | ⟨rfl, hj⟩ | ⟨rfl, hj⟩ |
    ⟨rfl, hj⟩ | ⟨rfl, hj⟩
  on_goal 2 =>
    obtain ⟨-, rfl⟩ := Json.nonEmpty_eq_some.mp hj.symm
    simp [restrict, Decode.requestStep, Decode.textSet_strs, OrdSet.ofList_of_pairwise hq, Functor.map,
      Except.map]
  all_goals
    obtain ⟨s, hs, rfl⟩ := Option.map_eq_some_iff.mp hj.symm
    simp [restrict, Decode.requestStep, hs, Functor.map, Except.map]

theorem restrict_keys {q : AccessRequest} {fs : List (String × Json)} (hfs : q.toJson = .obj fs) :
    q.restrict (fun k => ["user", "roles", "instance", "source_address", "service", "request", "subfield",
      "workspace", "layer"].contains k && (fs.map (·.1)).contains k) = q := by
  rw [present_keys_eq_lookup (by simp) (by simp) hfs]
  cases q
  simp only [restrict, ← Bool.cond_eq_ite]
  simp only [List.lookup_cons, String.reduceBEq, Option.join_some, Option.isSome_map, cond_isSome_self,
    Json.cond_nonEmpty_self]

theorem accessRequest_toJson {q : AccessRequest} (hq : q.WellFormed) :
    Decode.accessRequest (Datum.ofJson q.toJson) = .ok q := by
  obtain ⟨fs, hfs⟩ : ∃ fs, q.toJson = .obj fs := ⟨_, rfl⟩
  have hinit : q.restrict (fun _ => false) = {} := rfl
  rw [hfs, Datum.ofJson_obj]
  simp only [Decode.accessRequest, Decode.object, bind, Except.bind]
  exact members_obj hinit (nodup_present (by simp) hfs) (fun kv hkv _ p => requestStep_restrict hq hfs hkv p)
    (restrict_keys hfs)

end AccessRequest

/-- Rules, admin rules and requests read back from the JSON objects they are
written as, whenever they hold values the document form carries. -/
theorem records_read_back :
    (∀ r : Rule, r.WellFormed → Decode.rule (Datum.ofJson r.toJson) = .ok r) ∧
    (∀ r : AdminRule, r.WellFormed → Decode.adminRule (Datum.ofJson r.toJson) = .ok r) ∧
    (∀ q : AccessRequest, q.WellFormed → Decode.accessRequest (Datum.ofJson q.toJson) = .ok q) :=
  ⟨fun _ hr => Rule.rule_toJson hr, fun _ hr => AdminRule.adminRule_toJson hr,
    fun _ hq => AccessRequest.accessRequest_toJson hq⟩

/-- Layer details with an area, a spatial filter, two styles and an
attribute. -/
def roadsDetails : LayerDetails where
  allowedArea := some { srid := some 4326, wkt := "POINT(0 0)" }
  spatialFilter := some .clip
  allowedStyles := ["a", "b"]
  attributes := [{ name := "geom", access := .read }]

/-- An ALLOW rule with a member of every kind: the largest identifier, the
lowest priority, a user, a layer, an address range and layer details. -/
def roadsRule : Rule where
  id := some 18446744073709551615
  externalId := some "ext-1"
  name := some "roads"
  priority := -9223372036854775808
  ident := { username := some "alice", layer := some "roads", addressRange := some (AddressRange.mk (.v4 0x0A000000) 8) }
  access := .allow (some roadsDetails)

/-- An ADMIN rule for a role on a workspace, at the highest priority. -/
def editorsAdminRule : AdminRule where
  id := some 7
  priority := 9223372036854775807
  ident := { rolename := some "editors", workspace := some "ws", access := .admin }

/-- A request with two roles and a source address. -/
def aliceRequest : AccessRequest where
  user := some "alice"
  roles := ["admin", "editor"]
  sourceAddress := some "10.1.2.3"
  layer := some "roads"

theorem sample_records_read_back :
    roadsRule.WellFormed ∧ Decode.rule (Datum.ofJson roadsRule.toJson) = .ok roadsRule ∧
    editorsAdminRule.WellFormed ∧
      Decode.adminRule (Datum.ofJson editorsAdminRule.toJson) = .ok editorsAdminRule ∧
    aliceRequest.WellFormed ∧ Decode.accessRequest (Datum.ofJson aliceRequest.toJson) = .ok aliceRequest := by
  have hr : roadsRule.WellFormed := by
    refine ⟨by decide, by decide, fun d hd => ?_⟩
    cases hd
    refine ⟨fun g hg => ?_, by decide⟩
    cases hg
    intro n hn
    cases hn
    decide
  have ha : editorsAdminRule.WellFormed := ⟨by decide, by decide⟩
  have hq : aliceRequest.WellFormed := by
    unfold AccessRequest.WellFormed
    decide
  exact ⟨hr, records_read_back.1 _ hr, ha, records_read_back.2.1 _ ha, hq, records_read_back.2.2 _ hq⟩

end GeoAccess
