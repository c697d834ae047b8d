import ReplxEdge.Foundation.Json
import ReplxEdge.Foundation.Table

/-!
# Policy requests of the admin API

Three routes write the policies table through one storage function; only one of
them checks what it stores. A row keeps its configuration in a `jsonb` column.
-/

namespace ReplxEdge.Admin

open Foundation

/-!
## Validation
-/

/-- A policy as it is decoded: texts are not normalized yet. -/
structure PolicyConfig where
  maxSourceWidth : Option Int
  maxSourceHeight : Option Int
  maxSourceBitrateKbps : Option Int
  maxStreamingBitrateKbps : Option Int
  allow4K : GoString
  allowHDR : GoString
  allowDolbyVision : GoString
  allowTranscode : GoString
  preferDirectPlay : GoString
  maxAudioChannels : Option Int
  unknownDRBehavior : GoString
  routingMode : GoString
deriving DecidableEq

/-- The names and types of the members that are read. -/
def configFields : List (GoString × FieldKind) :=
  [(str "maxSourceWidth", .pointer), (str "maxSourceHeight", .pointer),
    (str "maxSourceBitrateKbps", .pointer),
    (str "maxStreamingBitrateKbps", .pointer), (str "allow4K", .text),
    (str "allowHDR", .text), (str "allowDolbyVision", .text),
    (str "allowTranscode", .text), (str "preferDirectPlay", .text),
    (str "maxAudioChannels", .pointer),
    (str "unknownDynamicRangeBehavior", .text), (str "routingMode", .text),
    (str "provenance", .labels)]

def readConfig (members : List (GoString × Json)) : PolicyConfig where
  maxSourceWidth := pointerField members (str "maxSourceWidth")
  maxSourceHeight := pointerField members (str "maxSourceHeight")
  maxSourceBitrateKbps := pointerField members (str "maxSourceBitrateKbps")
  maxStreamingBitrateKbps := pointerField members (str "maxStreamingBitrateKbps")
  allow4K := textField members (str "allow4K")
  allowHDR := textField members (str "allowHDR")
  allowDolbyVision := textField members (str "allowDolbyVision")
  allowTranscode := textField members (str "allowTranscode")
  preferDirectPlay := textField members (str "preferDirectPlay")
  maxAudioChannels := pointerField members (str "maxAudioChannels")
  unknownDRBehavior := textField members (str "unknownDynamicRangeBehavior")
  routingMode := textField members (str "routingMode")

def wellTyped (members : List (GoString × Json)) : Bool :=
  configFields.all fun field => (valuesOf members field.1).all field.2.accepts

def unmarshalPolicy : Json -> Option PolicyConfig
  | .null => some (readConfig [])
  | .object members => if wellTyped members then some (readConfig members) else none
  | _ => none

def scopeError (scopeType scopeID : GoString) : Option GoString :=
  if scopeType = str "global" then
    if scopeID ≠ [] then some (str "global scope takes no scope_id") else none
  else if scopeType = str "user" ∨ scopeType = str "device" then
    if scopeID = [] then some (scopeType ++ str " scope requires scope_id") else none
  else some (str "scope_type must be global, user or device")

def isTriState (t : GoString) : Bool :=
  [str "", str "inherit", str "allow", str "deny"].contains (toLower t)

def PolicyConfig.triStates (p : PolicyConfig) : List GoString :=
  [p.allow4K, p.allowHDR, p.allowDolbyVision, p.allowTranscode, p.unknownDRBehavior]

def valueError (p : PolicyConfig) : Option GoString :=
  if !p.triStates.all isTriState then some (str "tristates must be inherit, allow or deny")
  else if !([str "", str "inherit", str "allow"].contains (toLower p.preferDirectPlay)) then
    some (str "preferDirectPlay=deny is not implemented in Production 1.0")
  else if !([str "", str "inherit", str "automatic"].contains p.routingMode) then
    some (str "routingMode origin_preferred/media_fallback are not implemented in " ++
      str "Production 1.0: transport is validated direct-origin routing or the explicit " ++
      str "media gateway profile")
  else none

/-- Check scope rules and config shape before storage. A missing config has no bytes. -/
def validatePolicy (scopeType scopeID name : GoString) (config : Option Json) :
    Except GoString PolicyConfig :=
  match scopeError scopeType scopeID with
  | some message => Except.error message
  | none =>
    if name = [] then Except.error (str "name is required")
    else
      match config.bind unmarshalPolicy with
      | none => Except.error (str "config must be policy JSON")
      | some p =>
        match valueError p with
        | some message => Except.error message
        | none => Except.ok p

/-!
## Storage
-/

inductive Scope where
  | global
  | user (id : GoString)
  | device (id : GoString)
deriving DecidableEq

namespace Scope

def scopeType : Scope -> GoString
  | global => str "global"
  | user _ => str "user"
  | device _ => str "device"

def scopeID : Scope -> GoString
  | global => []
  | user id => id
  | device id => id

end Scope

structure PolicyRow where
  name : GoString
  config : Json
  enabled : Bool

/-- One row for each server and scope, which the unique indexes enforce. -/
abbrev PolicyTable := Table (GoString × Scope) PolicyRow

/-- What the database answers during one request: the newest enabled server, the rows
that an id names, whether the transaction is carried out, and whether a commit that
was reported as failed was applied. -/
structure Storage where
  server : Option GoString
  identity : GoString -> Option GoString
  client : GoString -> Option GoString
  identity_named : forall text id, identity text = some id -> id ≠ []
  client_named : forall text id, client text = some id -> id ≠ []
  executes : Bool
  commits : Bool
  applied : Bool
  failure : GoString

/-- The scope that a request names, once its user or device was looked up. -/
def resolveScope (db : Storage) (scopeType scopeID : GoString) : Except GoString Scope :=
  if scopeType = str "user" then
    match db.identity scopeID with
    | some id => Except.ok (.user id)
    | none => Except.error (str "unknown user scope_id")
  else if scopeType = str "device" then
    match db.client scopeID with
    | some id => Except.ok (.device id)
    | none => Except.error (str "unknown device scope_id")
  else if scopeType = str "global" then Except.ok .global
  else Except.error db.failure

/-- Replace the row for a scope after verifying that user and device references exist. -/
def storePolicy (db : Storage) (t : PolicyTable) (scopeType scopeID name : GoString)
    (config : Json) (enabled : Bool) : Except GoString Unit × PolicyTable :=
  match db.server with
  | none => (Except.error (str "no enabled server"), t)
  | some server =>
    match resolveScope db scopeType scopeID with
    | Except.error message => (Except.error message, t)
    | Except.ok scope =>
      if db.executes then
        let replaced := t.set (server, scope) ⟨name, config.stored, enabled⟩
        if db.commits then (Except.ok (), replaced)
        else (Except.error db.failure, if db.applied then replaced else t)
      else (Except.error db.failure, t)

/-!
## Requests
-/

inductive Method where
  | get
  | put
  | patch
  | other
deriving DecidableEq

structure PolicyBody where
  scopeType : GoString
  scopeID : GoString
  name : GoString
  config : Option Json
  enabled : Option Bool

structure Response where
  status : Nat
  code : GoString
  message : GoString
deriving DecidableEq

/-- The body of a successful answer is left out. -/
def accepted : Response :=
  ⟨200, [], []⟩

def answerStored (failureStatus : Nat) (stored : Except GoString Unit × PolicyTable) :
    Response × PolicyTable :=
  match stored.1 with
  | Except.ok _ => (accepted, stored.2)
  | Except.error message => (⟨failureStatus, str "POLICY_STORE_FAILED", message⟩, stored.2)

def handlePolicies (db : Storage) (t : PolicyTable) (method : Method)
    (body : Option PolicyBody) : Response × PolicyTable :=
  match method with
  | .get => (accepted, t)
  | .put =>
    match body with
    | none => (⟨400, str "INVALID_BODY", str "policy JSON required"⟩, t)
    | some b =>
      match validatePolicy b.scopeType b.scopeID b.name b.config with
      | Except.error message => (⟨400, str "POLICY_INVALID", message⟩, t)
      | Except.ok _ =>
        answerStored 502 (storePolicy db t b.scopeType b.scopeID b.name
          (b.config.getD .null) (b.enabled.getD true))
  | _ => (⟨405, str "METHOD_NOT_ALLOWED", str "GET or PUT"⟩, t)

/-- The two routes below a user and a device. An empty name gets a default; nothing
else is checked. -/
def handleScopePolicyPut (scopeType defaultName : GoString) (db : Storage) (t : PolicyTable)
    (id : GoString) (body : Option PolicyBody) : Response × PolicyTable :=
  match body with
  | none =>
    (⟨400, str "INVALID_BODY", str "policy \x7bname, config\x7d required"⟩, t)
  | some b =>
    match b.config with
    | none =>
      (⟨400, str "INVALID_BODY", str "policy \x7bname, config\x7d required"⟩, t)
    | some config =>
      answerStored 400 (storePolicy db t scopeType id
        (if b.name = [] then defaultName else b.name) config true)

def handleUserPolicyPut : Storage -> PolicyTable -> GoString -> Option PolicyBody ->
    Response × PolicyTable :=
  handleScopePolicyPut (str "user") (str "user-policy")

def handleDevicePolicyPut : Storage -> PolicyTable -> GoString -> Option PolicyBody ->
    Response × PolicyTable :=
  handleScopePolicyPut (str "device") (str "device-policy")

inductive PolicyRoute where
  | policies
  | user (id : GoString)
  | device (id : GoString)

structure PolicyRequest where
  route : PolicyRoute
  method : Method
  body : Option PolicyBody
  db : Storage

/-- The routes below a user and a device take PATCH for PUT. -/
def serve (t : PolicyTable) (r : PolicyRequest) : Response × PolicyTable :=
  match r.route with
  | .policies => handlePolicies r.db t r.method r.body
  | .user id =>
    match r.method with
    | .get => (accepted, t)
    | .other => (⟨405, str "METHOD_NOT_ALLOWED", str "GET or PATCH"⟩, t)
    | _ => handleUserPolicyPut r.db t id r.body
  | .device id =>
    match r.method with
    | .get => (accepted, t)
    | .other => (⟨405, str "METHOD_NOT_ALLOWED", str "GET, PATCH or policy"⟩, t)
    | _ => handleDevicePolicyPut r.db t id r.body

def afterRequests (t : PolicyTable) (requests : List PolicyRequest) : PolicyTable :=
  requests.foldl (fun table r => (serve table r).2) t

/-!
## Rows that pass validation
-/

def ValidRow (scope : Scope) (row : PolicyRow) : Prop :=
  exists p, validatePolicy scope.scopeType scope.scopeID row.name (some row.config) =
    Except.ok p

def OnlyValidWritten (before after : PolicyTable) : Prop :=
  forall key row, after.lookup key = some row ->
    before.lookup key = some row ∨ ValidRow key.2 row

def Unambiguous : Json -> Prop
  | .object members => forall field, field ∈ configFields -> OneName members field.1
  | _ => True

/-- A request whose configuration a column does not read differently; below a user and a
device it passes validation as well. -/
def Careful (r : PolicyRequest) : Prop :=
  forall b config, r.body = some b -> b.config = some config -> Unambiguous config ∧
    match r.route with
    | .policies => True
    | .user id => exists name p,
        validatePolicy (str "user") id name (some config) = Except.ok p
    | .device id => exists name p,
        validatePolicy (str "device") id name (some config) = Except.ok p

variable {p : PolicyConfig} {members : List (GoString × Json)} {before t : PolicyTable}
variable {body : Option PolicyBody}

theorem validatePolicy_ok {scopeType scopeID name : GoString} {config : Option Json} :
    validatePolicy scopeType scopeID name config = Except.ok p <->
      scopeError scopeType scopeID = none ∧ name ≠ [] ∧
        config.bind unmarshalPolicy = some p ∧ valueError p = none := by
  unfold validatePolicy
  cases hscope : scopeError scopeType scopeID with
  | some message =>
    simp
  | none =>
    by_cases hname : name = []
    · simp [hname]
    rw [if_neg hname]
    cases hconfig : config.bind unmarshalPolicy with
    | none =>
      simp
    | some q =>
      cases hvalue : valueError q with
      | some message =>
        simp only [hvalue]
        constructor
        · intro h
          cases h
        intro h
        rcases h with ⟨_, _, hq, hnone⟩
        cases hq
        exact absurd (hvalue.symm.trans hnone) (by simp)
      | none =>
        simp only [hvalue]
        constructor
        · intro h
          cases h
          exact ⟨trivial, hname, rfl, hvalue⟩
        intro h
        rcases h with ⟨_, _, hq, _⟩
        cases hq
        rfl

theorem valueError_none :
    valueError p = none <-> (forall t, t ∈ p.triStates -> isTriState t = true) ∧
        [str "", str "inherit", str "allow"].contains (toLower p.preferDirectPlay) = true ∧
        [str "", str "inherit", str "automatic"].contains p.routingMode = true := by
  unfold valueError
  rw [← List.all_eq_true]
  cases p.triStates.all isTriState with
  | false =>
    simp
  | true =>
    cases [str "", str "inherit", str "allow"].contains (toLower p.preferDirectPlay) with
    | false =>
      simp
    | true =>
      cases [str "", str "inherit", str "automatic"].contains p.routingMode with
      | false | true =>
        simp

theorem passes_of_same (rule : GoString -> Bool) (hempty : rule [] = true) {old new : GoString}
    (hsame : new = old ∨ new = []) (hold : rule old = true) : rule new = true := by
  rcases hsame with rfl | rfl
  · exact hold
  · exact hempty

theorem wellTyped_iff :
    wellTyped members = true <-> forall field, field ∈ configFields ->
      forall j, j ∈ valuesOf members field.1 -> field.2.accepts j = true := by
  unfold wellTyped
  rw [List.all_eq_true]
  exact forall_congr' fun field => imp_congr_right fun _ => List.all_eq_true

theorem wellTyped_column (hone : forall field, field ∈ configFields -> OneName members field.1)
    (htyped : wellTyped members = true) : wellTyped (columnMembers members) = true := by
  rw [wellTyped_iff] at htyped ⊢
  intro field hfield j hj
  rw [valuesOf_columnMembers (hone field hfield)] at hj
  rcases List.mem_map.mp hj with ⟨value, hvalue, rfl⟩
  have hmem : value ∈ valuesOf members field.1 :=
    List.mem_of_getLast? (Option.mem_toList.mp hvalue)
  exact FieldKind.accepts_stored (htyped field hfield value hmem)

theorem stored_passes {config : Json} (hone : Unambiguous config)
    (hconfig : unmarshalPolicy config = some p) (hvalue : valueError p = none) :
    exists q, unmarshalPolicy config.stored = some q ∧ valueError q = none := by
  cases config with
  | null => exact ⟨p, hconfig, hvalue⟩
  | object members =>
    rw [unmarshalPolicy] at hconfig
    split at hconfig
    · rename_i htyped
      cases hconfig
      rw [stored_object, unmarshalPolicy, if_pos (wellTyped_column hone htyped)]
      refine ⟨_, rfl, ?_⟩
      have hread : forall name, (name, .text) ∈ configFields ->
          textField (columnMembers members) name = textField members name ∨
            textField (columnMembers members) name = [] := by
        intro name hfield
        exact textField_columnMembers (hone _ hfield)
          fun j hj => wellTyped_iff.mp htyped _ hfield j hj
      rcases valueError_none.mp hvalue with ⟨htri, hprefer, hrouting⟩
      have htriState : forall name, (name, .text) ∈ configFields ->
          isTriState (textField members name) = true ->
          isTriState (textField (columnMembers members) name) = true :=
        fun name hfield => passes_of_same isTriState rfl (hread name hfield)
      simp only [PolicyConfig.triStates, readConfig, List.mem_cons, List.not_mem_nil, or_false,
        forall_eq_or_imp, forall_eq] at htri
      rcases htri with ⟨h4K, hHDR, hDV, htranscode, hunknown⟩
      refine valueError_none.mpr ⟨?_, ?_, ?_⟩
      · simp only [PolicyConfig.triStates, readConfig, List.mem_cons, List.not_mem_nil,
          or_false, forall_eq_or_imp, forall_eq]
        exact ⟨htriState _ (by decide) h4K, htriState _ (by decide) hHDR,
          htriState _ (by decide) hDV, htriState _ (by decide) htranscode,
          htriState _ (by decide) hunknown⟩
      · exact passes_of_same (fun t => [str "", str "inherit", str "allow"].contains
          (toLower t)) rfl (hread _ (by decide)) hprefer
      exact passes_of_same (fun t => [str "", str "inherit", str "automatic"].contains t)
        rfl (hread _ (by decide)) hrouting
    · cases hconfig
  | bool value | number value | string value | array items => cases hconfig

/-!
## Whole sequences
-/

theorem scopeError_named {scopeType id : GoString}
    (htype : scopeType = str "user" ∨ scopeType = str "device") (hid : id ≠ []) :
    scopeError scopeType id = none := by
  have hglobal : scopeType ≠ str "global" := by
    rcases htype with rfl | rfl
    · decide
    · decide
  unfold scopeError
  rw [if_neg hglobal, if_pos htype, if_neg hid]

theorem scopeError_resolved {db : Storage} {scopeType scopeID : GoString} {scope : Scope}
    (h : resolveScope db scopeType scopeID = Except.ok scope) :
    scope.scopeType = scopeType ∧ scopeError scope.scopeType scope.scopeID = none := by
  unfold resolveScope at h
  split at h
  · rename_i htype
    split at h
    · rename_i id hid
      cases h
      exact ⟨htype.symm, scopeError_named (Or.inl rfl) (db.identity_named scopeID id hid)⟩
    · cases h
  split at h
  · rename_i htype
    split at h
    · rename_i id hid
      cases h
      exact ⟨htype.symm, scopeError_named (Or.inr rfl) (db.client_named scopeID id hid)⟩
    · cases h
  split at h
  · rename_i htype
    cases h
    exact ⟨htype.symm, rfl⟩
  · cases h

theorem onlyValid_set (h : OnlyValidWritten before t)
    (key : GoString × Scope) {row : PolicyRow} (hvalid : ValidRow key.2 row) :
    OnlyValidWritten before (t.set key row) := by
  intro other found hfound
  rw [Table.lookup_set] at hfound
  split at hfound
  · rename_i hkey
    cases hfound
    rw [hkey]
    exact Or.inr hvalid
  · exact h other found hfound

theorem onlyValid_storePolicy (h : OnlyValidWritten before t)
    (db : Storage) {scopeType scopeID name : GoString} {config : Json} (enabled : Bool)
    (hone : Unambiguous config) (hname : name ≠ [])
    (hconfig : exists p, unmarshalPolicy config = some p ∧ valueError p = none) :
    OnlyValidWritten before (storePolicy db t scopeType scopeID name config enabled).2 := by
  unfold storePolicy
  cases db.server with
  | none => exact h
  | some server =>
    cases hscope : resolveScope db scopeType scopeID with
    | error message => exact h
    | ok scope =>
      rcases hconfig with ⟨p, hp, hvalue⟩
      rcases stored_passes hone hp hvalue with ⟨q, hq, hqvalue⟩
      have hvalid : ValidRow scope ⟨name, config.stored, enabled⟩ :=
        ⟨q, validatePolicy_ok.mpr ⟨(scopeError_resolved hscope).right, hname, hq, hqvalue⟩⟩
      have hreplaced := onlyValid_set h (server, scope) hvalid
      simp only
      split
      · split
        · exact hreplaced
        split
        · exact hreplaced
        · exact h
      · exact h

theorem answerStored_table (failureStatus : Nat) (stored : Except GoString Unit × PolicyTable) :
    (answerStored failureStatus stored).2 = stored.2 := by
  unfold answerStored
  cases stored.1 with
  | ok | error => rfl

theorem onlyValid_handlePolicies (h : OnlyValidWritten before t) (db : Storage) (method : Method)
    (hone : forall b config, body = some b -> b.config = some config -> Unambiguous config) :
    OnlyValidWritten before (handlePolicies db t method body).2 := by
  unfold handlePolicies
  cases method with
  | get | patch | other => exact h
  | put =>
    cases hbody : body with
    | none => exact h
    | some b =>
      cases hvalid : validatePolicy b.scopeType b.scopeID b.name b.config with
      | error message =>
        simp only [hvalid]
        exact h
      | ok p =>
        simp only [hvalid]
        rcases validatePolicy_ok.mp hvalid with ⟨_, hname, hconfig, hvalue⟩
        rcases Option.bind_eq_some_iff.mp hconfig with ⟨config, hsome, hp⟩
        rw [answerStored_table, hsome]
        exact onlyValid_storePolicy h db _ (hone b config hbody hsome) hname
          ⟨p, hp, hvalue⟩

theorem onlyValid_handleScopePolicyPut (h : OnlyValidWritten before t)
    (db : Storage) {scopeType defaultName id : GoString} (hdefault : defaultName ≠ [])
    (hcareful : forall b config, body = some b -> b.config = some config -> Unambiguous config ∧
        exists name p, validatePolicy scopeType id name (some config) = Except.ok p) :
    OnlyValidWritten before (handleScopePolicyPut scopeType defaultName db t id body).2 := by
  unfold handleScopePolicyPut
  cases hbody : body with
  | none => exact h
  | some b =>
    cases hsome : b.config with
    | none =>
      simp only [hsome]
      exact h
    | some config =>
      rcases hcareful b config hbody hsome with ⟨hone, name, p, hvalid⟩
      rcases validatePolicy_ok.mp hvalid with ⟨_, _, hconfig, hvalue⟩
      simp only [hsome, answerStored_table]
      refine onlyValid_storePolicy h db true hone ?_ ⟨p, hconfig, hvalue⟩
      split
      · exact hdefault
      · assumption

theorem onlyValid_serve (h : OnlyValidWritten before t)
    {r : PolicyRequest} (hcareful : Careful r) : OnlyValidWritten before (serve t r).2 := by
  unfold serve
  unfold Careful at hcareful
  cases hroute : r.route with
  | policies =>
    rw [hroute] at hcareful
    exact onlyValid_handlePolicies h r.db r.method
      fun b config hb hc => (hcareful b config hb hc).left
  | user | device =>
    rw [hroute] at hcareful
    cases r.method with
    | get | other => exact h
    | put | patch => exact onlyValid_handleScopePolicyPut h r.db (by decide) hcareful

/-- Careful requests write valid rows only, in any order and whatever was there. -/
theorem only_valid_policies (t : PolicyTable) (requests : List PolicyRequest)
    (hcareful : forall r, r ∈ requests -> Careful r) :
    OnlyValidWritten t (afterRequests t requests) := by
  have hkept : forall (rest : List PolicyRequest) (current : PolicyTable),
      (forall r, r ∈ rest -> Careful r) -> OnlyValidWritten t current ->
      OnlyValidWritten t (afterRequests current rest) := by
    intro rest
    induction rest with
    | nil =>
      intro current _ h
      exact h
    | cons r rest ih =>
      intro current hrest h
      exact ih _ (fun other hother => hrest other (List.mem_cons_of_mem _ hother))
        (onlyValid_serve h (hrest r List.mem_cons_self))
  exact hkept requests t hcareful fun _ _ hrow => Or.inl hrow

def singleServer : Storage where
  server := some (str "s")
  identity := fun _ => some (str "u")
  client := fun _ => some (str "d")
  identity_named := fun _ id h => by
    rw [← Option.some.inj h]
    decide
  client_named := fun _ id h => by
    rw [← Option.some.inj h]
    decide
  executes := true
  commits := true
  applied := false
  failure := []

def putPolicy (route : PolicyRoute) (scopeType : GoString) (config : Json) : PolicyRequest where
  route := route
  method := .put
  body := some ⟨scopeType, [], str "p", some config, none⟩
  db := singleServer

def denies4K : Json :=
  .object [(str "allow4K", .string (str "deny"))]

theorem only_valid_policies_denied :
    (forall r, r ∈ [putPolicy .policies (str "global") denies4K,
        putPolicy (.user (str "u")) [] denies4K] -> (serve Table.empty r).1 = accepted) ∧
      OnlyValidWritten Table.empty (afterRequests Table.empty
        [putPolicy .policies (str "global") denies4K,
          putPolicy (.user (str "u")) [] denies4K]) := by
  have hone : Unambiguous denies4K := by
    unfold denies4K Unambiguous
    decide +kernel
  refine ⟨?_, only_valid_policies _ _ ?_⟩
  · decide +kernel
  intro r hr b config hb hc
  rcases List.mem_cons.mp hr with rfl | hr
  · cases hb
    cases hc
    exact ⟨hone, trivial⟩
  rw [List.mem_singleton.mp hr] at hb ⊢
  cases hb
  cases hc
  exact ⟨hone, str "p", _, rfl⟩

def bogus4K : Json :=
  .object [(str "allow4K", .string (str "bogus"))]

/-- The last member wins when the request is read, the other one when the row is. -/
def ambiguous4K : Json :=
  .object [(str "allow4k", .string (str "bogus")),
    (str "allow4K", .string (str "deny"))]

theorem invalid_policies_stored :
    (serve Table.empty (putPolicy (.user (str "u")) [] bogus4K)).1 = accepted ∧
      ¬ OnlyValidWritten Table.empty
        (afterRequests Table.empty [putPolicy (.user (str "u")) [] bogus4K]) ∧
      (serve Table.empty (putPolicy .policies (str "global") ambiguous4K)).1 =
        accepted ∧ ¬ OnlyValidWritten Table.empty (afterRequests Table.empty
        [putPolicy .policies (str "global") ambiguous4K]) := by
  refine ⟨rfl, ?_, rfl, ?_⟩
  · intro h
    rcases h (str "s", .user (str "u")) ⟨str "p", bogus4K.stored, true⟩ rfl with
      hbefore | ⟨p, hvalid⟩
    · cases hbefore
    · cases hvalid
  intro h
  rcases h (str "s", .global) ⟨str "p", ambiguous4K.stored, true⟩ rfl with
    hbefore | ⟨p, hvalid⟩
  · cases hbefore
  · cases hvalid

end ReplxEdge.Admin
