import ReplxEdge.Foundation.Bytes
import ReplxEdge.Foundation.Table

/-!
# Retiring the setup token

The setup token that a process prints at its start signs an operator in until the
administrator account exists. A login first checks the token and later creates a session;
a setup request checks the token, creates the account, sets a flag and then revokes the
sessions that the token led to. Requests run side by side, so a step is one access of one
of them to the flag, the session store or the account table.
-/

namespace ReplxEdge.Admin

open Foundation

structure SetupToken where
  text : GoString
  issued : Instant

def bootstrapWindow : Duration := 15 * minute

def sessionTTL : Duration := 12 * 60 * minute

def setupSubject : GoString :=
  str "setup-token"

structure AdminSession where
  csrf : GoString
  expires : Instant
  subject : GoString

/-- Where a login stands: it sent a token or a name with a password, the token passed, the
lifetime was computed, or the password was right. -/
inductive Login where
  | token (form : GoString)
  | passed
  | timed (ttl : Duration)
  | password (username : GoString)
  | verified (username : GoString)

/-- Where a setup request stands. `flagged` and `revoked` are points of `consumeSetup`,
which returns with the latter. -/
inductive Setup where
  | received (token username : GoString)
  | valid (username : GoString)
  | created
  | flagged
  | revoked
deriving DecidableEq

inductive Deed where
  | retired
  | answered (n status : Nat)
deriving DecidableEq

/-- `admin` is the name in the only row of `admin_users`. -/
structure Bootstrap where
  now : Instant
  consumed : Bool
  sessions : Table GoString AdminSession
  admin : Option GoString
  logins : Table Nat Login
  setups : Table Nat Setup
  log : List Deed

def Bootstrap.start (now : Instant) (admin : Option GoString) : Bootstrap where
  now := now
  consumed := false
  sessions := Table.empty
  admin := admin
  logins := Table.empty
  setups := Table.empty
  log := []

/-!
## Authorisation
-/

/-- What the check of a request reads. `csrfForm` is `none` for a form that does not
parse. -/
structure AdminRequest where
  authorization : GoString
  cookie : Option GoString
  safeMethod : Bool
  csrfForm : Option GoString
  csrfHeader : GoString

inductive Grant where
  | setupToken
  | session (s : AdminSession)

namespace Bootstrap

variable (token : SetupToken) (y : Bootstrap)

def setupTokenValid (got : GoString) : Bool :=
  got == token.text && !y.consumed && !decide (bootstrapWindow < y.now - token.issued)

def bootstrapTTL : Duration :=
  bootstrapWindow - (y.now - token.issued)

def lookup (id : GoString) : Option AdminSession :=
  (y.sessions.lookup id).filter fun s => !decide (s.expires < y.now)

def auth (r : AdminRequest) : Option Grant :=
  let got := trimPrefix r.authorization (str "Bearer ")
  if got ≠ [] ∧ y.setupTokenValid token got = true then some .setupToken
  else
    match r.cookie.bind y.lookup with
    | none => none
    | some s =>
      if r.safeMethod then some (.session s)
      else
        match r.csrfForm with
        | none => none
        | some form =>
          if form = s.csrf ∨ r.csrfHeader = s.csrf then some (.session s) else none

end Bootstrap

/-!
## Steps
-/

/-- How the transaction of a setup request ends, if no account exists yet. -/
inductive CreateOutcome where
  | weakPassword
  | failed
  | insertFails
  | commit (committed acknowledged : Bool)

inductive AdminAction where
  | tick (elapsed : Nat)
  | login (n : Nat) (form : GoString)
  | passwordLogin (n : Nat) (username : GoString)
  | checkToken (n : Nat)
  | readTTL (n : Nat)
  | verifyAdmin (n : Nat) (ok : Bool)
  | createSession (n : Nat) (raw : Option (GoString × GoString))
  | lookup (id : GoString)
  | logout (id : GoString)
  | setup (n : Nat) (token username : GoString)
  | checkSetup (n : Nat)
  | createAdmin (n : Nat) (outcome : CreateOutcome)
  | setConsumed (n : Nat)
  | revokeSubject (n : Nat)
  | answerCreated (n : Nat)

namespace Bootstrap

section Steps

variable (token : SetupToken) (y : Bootstrap) (n : Nat)

def setLogin (l : Login) : Bootstrap :=
  { y with logins := y.logins.set n l }

def endLogin : Bootstrap :=
  { y with logins := y.logins.delete n }

def setSetup (p : Setup) : Bootstrap :=
  { y with setups := y.setups.set n p }

def answer (status : Nat) : Bootstrap :=
  { y with setups := y.setups.delete n, log := .answered n status :: y.log }

def sweep : Table GoString AdminSession :=
  y.sessions.keep fun _ s => !decide (s.expires < y.now)

/-- `createWithSubjectTTL`; `raw` holds the random id and the CSRF token. -/
def createWithSubjectTTL (subject : GoString) (ttl : Duration)
    (raw : Option (GoString × GoString)) : Bootstrap :=
  match raw with
  | none => y
  | some (id, csrf) =>
    if ttl ≤ 0 then y
    else { y with sessions := y.sweep.set id ⟨csrf, y.now + ttl, subject⟩ }

def createSession (raw : Option (GoString × GoString)) : Option Bootstrap :=
  match y.logins.lookup n with
  | some (.timed ttl) =>
    some ((y.createWithSubjectTTL setupSubject ttl raw).endLogin n)
  | some (.verified username) =>
    some ((y.createWithSubjectTTL username sessionTTL raw).endLogin n)
  | _ => none

def checkToken : Option Bootstrap :=
  match y.logins.lookup n with
  | some (.token form) =>
    some (if y.setupTokenValid token form then y.setLogin n .passed else y.endLogin n)
  | _ => none

def readTTL : Option Bootstrap :=
  match y.logins.lookup n with
  | some .passed => some (y.setLogin n (.timed (y.bootstrapTTL token)))
  | _ => none

/-- `ok` is the comparison of the password with the stored hash, and of the attempts with
their limit. -/
def verifyAdmin (ok : Bool) : Option Bootstrap :=
  match y.logins.lookup n with
  | some (.password username) =>
    some (if ok && y.admin == some username then y.setLogin n (.verified username)
      else y.endLogin n)
  | _ => none

def touch (id : GoString) : Bootstrap :=
  match y.sessions.lookup id with
  | none => y
  | some s => if s.expires < y.now then { y with sessions := y.sessions.delete id } else y

def logout (id : GoString) : Bootstrap :=
  { y with sessions := y.sessions.delete id }

def checkSetup : Option Bootstrap :=
  match y.setups.lookup n with
  | some (.received form username) =>
    some (if y.setupTokenValid token form then y.setSetup n (.valid username)
      else y.answer n 401)
  | _ => none

/-- The transaction that creates the account. An advisory lock makes it one step. -/
def createAdmin (outcome : CreateOutcome) : Option Bootstrap :=
  match y.setups.lookup n with
  | some (.valid username) =>
    match outcome with
    | .weakPassword => some (y.answer n 400)
    | .failed => some (y.answer n 502)
    | .insertFails => some (y.answer n 409)
    | .commit committed acknowledged =>
      match y.admin with
      | some _ => some (y.answer n 409)
      | none =>
        let left := { y with admin := if committed then some username else none }
        some (if committed && acknowledged then left.setSetup n .created
          else left.answer n 502)
  | _ => none

def setConsumed : Option Bootstrap :=
  if y.setups.lookup n = some .created then
    some ({ y with consumed := true }.setSetup n .flagged)
  else none

def revokeSubject : Option Bootstrap :=
  if y.setups.lookup n = some .flagged then
    some ({ y with
      sessions := y.sessions.keep fun _ s => s.subject != setupSubject
      log := .retired :: y.log }.setSetup n .revoked)
  else none

def answerCreated : Option Bootstrap :=
  if y.setups.lookup n = some .revoked then some (y.answer n 201) else none

end Steps

/-- One step; `none` when the request does not stand there. -/
def step (token : SetupToken) (y : Bootstrap) : AdminAction -> Option Bootstrap
  | .tick elapsed => some { y with now := y.now + elapsed }
  | .login n form =>
    if (y.logins.lookup n).isNone then some (y.setLogin n (.token form)) else none
  | .passwordLogin n username =>
    if (y.logins.lookup n).isNone then some (y.setLogin n (.password username)) else none
  | .checkToken n => y.checkToken token n
  | .readTTL n => y.readTTL token n
  | .verifyAdmin n ok => y.verifyAdmin n ok
  | .createSession n raw => y.createSession n raw
  | .lookup id => some (y.touch id)
  | .logout id => some (y.logout id)
  | .setup n form username =>
    if (y.setups.lookup n).isNone then some (y.setSetup n (.received form username))
    else none
  | .checkSetup n => y.checkSetup token n
  | .createAdmin n outcome => y.createAdmin n outcome
  | .setConsumed n => y.setConsumed n
  | .revokeSubject n => y.revokeSubject n
  | .answerCreated n => y.answerCreated n

end Bootstrap

/-!
## Sessions of the setup token
-/

/-- The subject of the session that a login is about to get. -/
def Login.opens : Login -> Option GoString
  | .timed ttl => if 0 < ttl then some setupSubject else none
  | .verified username => some username
  | _ => none

/-- Behind the revocation no login of the setup token, and none of an administrator with the
name that stands for it, gets a session. -/
def LateLogin (y : Bootstrap) : AdminAction -> Prop
  | .createSession n raw => .retired ∈ y.log -> raw.isSome = true ->
      (y.logins.lookup n).bind Login.opens ≠ some setupSubject
  | _ => True

instance (y : Bootstrap) (a : AdminAction) : Decidable (LateLogin y a) := by
  cases a <;> unfold LateLogin <;> infer_instance

/-- Behind the revocation no session has the subject of the setup token. -/
def Cleared (sessions : Table GoString AdminSession) (log : List Deed) : Prop :=
  .retired ∈ log -> forall id s, sessions.lookup id = some s -> s.subject ≠ setupSubject

section Cleared

variable {sessions rest : Table GoString AdminSession} {log : List Deed}

theorem Cleared.fewer (h : Cleared sessions log)
    (hrest : forall id s, rest.lookup id = some s -> sessions.lookup id = some s) :
    Cleared rest log :=
  fun hretired id s hs => h hretired id s (hrest id s hs)

theorem Cleared.note {d : Deed} (h : Cleared sessions log) (hd : d ≠ .retired) :
    Cleared sessions (d :: log) := by
  intro hretired
  rcases List.mem_cons.mp hretired with heq | hold
  · exact absurd heq.symm hd
  · exact h hold

theorem Cleared.open {id : GoString} {s : AdminSession} (h : Cleared sessions log)
    (hs : .retired ∈ log -> s.subject ≠ setupSubject) : Cleared (sessions.set id s) log := by
  intro hretired other found hfound
  rcases Table.lookup_set_cases hfound with hnew | hold
  · exact hnew ▸ hs hretired
  · exact h hretired other found hold

theorem cleared_revoke :
    Cleared (sessions.keep fun _ s => s.subject != setupSubject) log := by
  intro _ id s hs
  rw [Table.lookup_keep] at hs
  simpa using (Option.filter_eq_some_iff.mp hs).right

end Cleared

/-!
## The flag
-/

/-- `consumeSetup` sets the flag before it revokes and returns. -/
structure Consumption (consumed : Bool) (setups : Table Nat Setup) (log : List Deed) :
    Prop where
  flagged : forall n, setups.lookup n = some .flagged -> consumed = true
  retired : .retired ∈ log -> consumed = true

variable {p : Setup}

section Consumption

variable {consumed : Bool} {setups : Table Nat Setup} {log : List Deed} {n : Nat}

theorem Consumption.note {d : Deed} (h : Consumption consumed setups log)
    (hd : d ≠ .retired) : Consumption consumed setups (d :: log) where
  flagged := h.flagged
  retired := by
    intro hmem
    rcases List.mem_cons.mp hmem with heq | hold
    · exact absurd heq.symm hd
    · exact h.retired hold

theorem Consumption.set (h : Consumption consumed setups log)
    (hp : p ≠ .flagged) : Consumption consumed (setups.set n p) log where
  flagged := by
    intro m hm
    rcases Table.lookup_set_cases hm with hnew | hold
    · exact absurd hnew.symm hp
    · exact h.flagged m hold
  retired := h.retired

theorem Consumption.delete (h : Consumption consumed setups log) :
    Consumption consumed (setups.delete n) log where
  flagged := fun m hm => h.flagged m (Table.lookup_of_delete hm)
  retired := h.retired

theorem consumption_true (setups : Table Nat Setup) (log : List Deed) :
    Consumption true setups log :=
  ⟨fun _ _ => rfl, fun _ => rfl⟩

end Consumption

/-!
## The account
-/

def Setup.won : Setup -> Bool
  | .received _ _ => false
  | .valid _ => false
  | _ => true

def winning (_ : Nat) (p : Setup) : Nat :=
  if p.won then 1 else 0

def Deed.isCreated : Deed -> Bool
  | .answered _ status => status == 201
  | _ => false

def createdAnswers (log : List Deed) : Nat :=
  log.countP Deed.isCreated

/-- One request at most has created the account, answered or not. -/
def OneWinner (admin : Option GoString) (setups : Table Nat Setup) (log : List Deed) : Prop :=
  createdAnswers log + setups.weigh winning ≤ if admin.isSome then 1 else 0

section OneWinner

variable {admin : Option GoString} {setups : Table Nat Setup} {log : List Deed} {n : Nat}

theorem createdAnswers_cons {d : Deed} (hd : d.isCreated = false) :
    createdAnswers (d :: log) = createdAnswers log := by
  unfold createdAnswers
  rw [List.countP_cons_of_neg (by simp [hd])]

theorem OneWinner.note {d : Deed} (h : OneWinner admin setups log)
    (hd : d.isCreated = false) : OneWinner admin setups (d :: log) := by
  unfold OneWinner
  rw [createdAnswers_cons hd]
  exact h

theorem OneWinner.set (h : OneWinner admin setups log)
    (hp : p.won = true -> exists old, setups.lookup n = some old ∧ old.won = true) :
    OneWinner admin (setups.set n p) log := by
  have hweigh : (setups.set n p).weigh winning ≤ setups.weigh winning := by
    rw [Table.weigh_set]
    cases hwon : p.won with
    | false =>
      have hless := setups.weigh_delete_le n winning
      simp only [winning, hwon]
      simpa using hless
    | true =>
      rcases hp hwon with ⟨old, hold, holdwon⟩
      have hless := Table.weigh_delete_add hold winning
      simp only [winning, hwon, holdwon] at hless ⊢
      omega
  unfold OneWinner at h ⊢
  omega

theorem OneWinner.answer {status : Nat} (h : OneWinner admin setups log) (hstatus : status ≠ 201) :
    OneWinner admin (setups.delete n) (.answered n status :: log) := by
  have hless := setups.weigh_delete_le n winning
  unfold OneWinner at h ⊢
  rw [createdAnswers_cons (by simpa [Deed.isCreated] using hstatus)]
  omega

theorem OneWinner.answerCreated (h : OneWinner admin setups log)
    (hrevoked : setups.lookup n = some .revoked) :
    OneWinner admin (setups.delete n) (.answered n 201 :: log) := by
  have hless := Table.weigh_delete_add hrevoked winning
  have hone : winning n .revoked = 1 := rfl
  have hcount : createdAnswers (.answered n 201 :: log) = createdAnswers log + 1 :=
    List.countP_cons_of_pos rfl
  unfold OneWinner at h ⊢
  omega

theorem OneWinner.grow (h : OneWinner none setups log) (admin : Option GoString) :
    OneWinner admin setups log := by
  unfold OneWinner at h ⊢
  simp only [Option.isSome_none] at h
  simp only [Bool.false_eq_true, if_false] at h
  omega

theorem OneWinner.create {username : GoString} (h : OneWinner none setups log) :
    OneWinner (some username) (setups.set n p) log := by
  have hweigh := Table.weigh_set setups n p winning
  have hless := setups.weigh_delete_le n winning
  have hone : winning n p ≤ 1 := by
    unfold winning
    split
    · exact le_refl 1
    · exact Nat.zero_le 1
  unfold OneWinner at h ⊢
  simp only [Option.isSome_none, Bool.false_eq_true, if_false] at h
  simp only [Option.isSome_some, if_true]
  omega

end OneWinner

/-!
## Every step keeps this
-/

structure Sound (y : Bootstrap) : Prop where
  consumption : Consumption y.consumed y.setups y.log
  winner : OneWinner y.admin y.setups y.log

namespace Sound

variable {token : SetupToken} {y y' : Bootstrap} {n : Nat}

theorem answer {status : Nat} (h : Sound y) (hstatus : status ≠ 201) :
    Sound (y.answer n status) where
  consumption := h.consumption.delete.note (by simp)
  winner := h.winner.answer hstatus

theorem createWithSubjectTTL (h : Sound y) (subject : GoString) (ttl : Duration)
    (raw : Option (GoString × GoString)) :
    Sound (y.createWithSubjectTTL subject ttl raw) := by
  unfold Bootstrap.createWithSubjectTTL
  repeat' split
  all_goals exact ⟨h.consumption, h.winner⟩

theorem setSetup (h : Sound y) (hp : p.won = false) : Sound (y.setSetup n p) where
  consumption := h.consumption.set (by intro hsame; rw [hsame] at hp; cases hp)
  winner := h.winner.set (by rw [hp]; intro hwon; cases hwon)

theorem checkSetup (h : Sound y) (hstep : y.checkSetup token n = some y') : Sound y' := by
  unfold Bootstrap.checkSetup at hstep
  split at hstep
  · cases hstep
    split
    · exact h.setSetup rfl
    · exact h.answer (by decide)
  · cases hstep

theorem createAdmin {outcome : CreateOutcome} (h : Sound y)
    (hstep : y.createAdmin n outcome = some y') : Sound y' := by
  unfold Bootstrap.createAdmin at hstep
  split at hstep
  · split at hstep
    · cases hstep
      exact h.answer (by decide)
    · cases hstep
      exact h.answer (by decide)
    · cases hstep
      exact h.answer (by decide)
    split at hstep
    · cases hstep
      exact h.answer (by decide)
    rename_i hadmin
    have hnone : OneWinner none y.setups y.log := hadmin ▸ h.winner
    cases hstep
    split
    · rename_i hboth
      rw [(Bool.and_eq_true_iff.mp hboth).left]
      exact ⟨h.consumption.set (by simp), hnone.create⟩
    have hstatus : 502 ≠ 201 := by decide
    exact Sound.answer ⟨h.consumption, hnone.grow _⟩ hstatus
  · cases hstep

theorem setConsumed (h : Sound y) (hstep : y.setConsumed n = some y') : Sound y' := by
  rcases Option.ite_none_right_eq_some.mp hstep with ⟨hcreated, hstep⟩
  cases hstep
  exact ⟨consumption_true _ _, h.winner.set fun _ => ⟨.created, hcreated, rfl⟩⟩

theorem revokeSubject (h : Sound y) (hstep : y.revokeSubject n = some y') : Sound y' := by
  rcases Option.ite_none_right_eq_some.mp hstep with ⟨hflagged, hstep⟩
  have hconsumed := h.consumption.flagged n hflagged
  cases hstep
  constructor
  · show Consumption y.consumed _ _
    rw [hconsumed]
    exact consumption_true _ _
  · exact (h.winner.note rfl).set fun _ => ⟨.flagged, hflagged, rfl⟩

theorem answerCreated (h : Sound y) (hstep : y.answerCreated n = some y') : Sound y' := by
  rcases Option.ite_none_right_eq_some.mp hstep with ⟨hrevoked, hstep⟩
  cases hstep
  exact ⟨h.consumption.delete.note (by simp), h.winner.answerCreated hrevoked⟩

end Sound

section Steps

variable {token : SetupToken} {y y' : Bootstrap} {a : AdminAction}

theorem sound_step (h : Sound y) (hstep : y.step token a = some y') : Sound y' := by
  cases a with
  | tick | logout =>
    cases hstep
    exact ⟨h.consumption, h.winner⟩
  | lookup id =>
    cases hstep
    unfold Bootstrap.touch
    repeat' split
    all_goals exact ⟨h.consumption, h.winner⟩
  | login | passwordLogin =>
    rcases Option.ite_none_right_eq_some.mp hstep with ⟨_, hstep⟩
    cases hstep
    exact ⟨h.consumption, h.winner⟩
  | checkToken | readTTL | verifyAdmin =>
    simp only [Bootstrap.step, Bootstrap.checkToken, Bootstrap.readTTL,
      Bootstrap.verifyAdmin] at hstep
    split at hstep
    all_goals cases hstep
    all_goals repeat' split
    all_goals exact ⟨h.consumption, h.winner⟩
  | createSession n raw =>
    simp only [Bootstrap.step, Bootstrap.createSession] at hstep
    split at hstep
    all_goals cases hstep
    all_goals
      have hnew := h.createWithSubjectTTL
      exact ⟨(hnew _ _ _).consumption, (hnew _ _ _).winner⟩
  | setup n form username =>
    rcases Option.ite_none_right_eq_some.mp hstep with ⟨_, hstep⟩
    cases hstep
    exact h.setSetup rfl
  | checkSetup n => exact h.checkSetup hstep
  | createAdmin n outcome => exact h.createAdmin hstep
  | setConsumed n => exact h.setConsumed hstep
  | revokeSubject n => exact h.revokeSubject hstep
  | answerCreated n => exact h.answerCreated hstep

theorem cleared_createWithSubjectTTL {subject : GoString} {ttl : Duration}
    {raw : Option (GoString × GoString)} (h : Cleared y.sessions y.log)
    (hlate : .retired ∈ y.log -> raw.isSome = true -> 0 < ttl -> subject ≠ setupSubject) :
    Cleared (y.createWithSubjectTTL subject ttl raw).sessions y.log := by
  unfold Bootstrap.createWithSubjectTTL
  split
  · exact h
  split
  · exact h
  · rename_i hpositive
    exact (h.fewer fun _ _ => Table.lookup_of_keep).open fun hretired =>
      hlate hretired rfl (not_le.mp hpositive)

theorem createWithSubjectTTL_log (y : Bootstrap) (subject : GoString) (ttl : Duration)
    (raw : Option (GoString × GoString)) :
    (y.createWithSubjectTTL subject ttl raw).log = y.log := by
  unfold Bootstrap.createWithSubjectTTL
  repeat' split
  all_goals rfl

theorem cleared_step (h : Cleared y.sessions y.log) (hlate : LateLogin y a)
    (hstep : y.step token a = some y') : Cleared y'.sessions y'.log := by
  cases a with
  | tick =>
    cases hstep
    exact h
  | login | passwordLogin | setup | setConsumed =>
    rcases Option.ite_none_right_eq_some.mp hstep with ⟨_, hstep⟩
    cases hstep
    exact h
  | lookup id =>
    cases hstep
    unfold Bootstrap.touch
    repeat' split
    · exact h
    · exact h.fewer fun _ _ => Table.lookup_of_delete
    · exact h
  | logout id =>
    cases hstep
    exact h.fewer fun _ _ => Table.lookup_of_delete
  | checkToken | readTTL | verifyAdmin =>
    simp only [Bootstrap.step, Bootstrap.checkToken, Bootstrap.readTTL,
      Bootstrap.verifyAdmin] at hstep
    split at hstep
    all_goals cases hstep
    all_goals repeat' split
    all_goals exact h
  | createSession n raw =>
    simp only [Bootstrap.step, Bootstrap.createSession] at hstep
    simp only [LateLogin] at hlate
    split at hstep
    · rename_i hlogin
      cases hstep
      simp only [Bootstrap.endLogin, createWithSubjectTTL_log]
      refine cleared_createWithSubjectTTL h fun hretired hraw httl => ?_
      simpa [hlogin, Login.opens, httl] using hlate hretired hraw
    · rename_i hlogin
      cases hstep
      simp only [Bootstrap.endLogin, createWithSubjectTTL_log]
      refine cleared_createWithSubjectTTL h fun hretired hraw _ => ?_
      simpa [hlogin, Login.opens] using hlate hretired hraw
    · cases hstep
  | checkSetup | createAdmin =>
    simp only [Bootstrap.step, Bootstrap.checkSetup, Bootstrap.createAdmin] at hstep
    repeat' split at hstep
    all_goals cases hstep
    all_goals first | exact h | exact h.note (by simp)
  | revokeSubject n =>
    rcases Option.ite_none_right_eq_some.mp hstep with ⟨_, hstep⟩
    cases hstep
    exact cleared_revoke
  | answerCreated n =>
    rcases Option.ite_none_right_eq_some.mp hstep with ⟨_, hstep⟩
    cases hstep
    exact h.note (by simp)

end Steps

/-!
## Who is let in
-/

/-- No request that arrives now is let in by the setup token, or by a session that it led
to. -/
def NoSetupGrant (token : SetupToken) (y : Bootstrap) : Prop :=
  forall r, y.auth token r ≠ some .setupToken ∧
    forall s, y.auth token r = some (.session s) -> s.subject ≠ setupSubject

namespace Bootstrap

variable {token : SetupToken} {y : Bootstrap} {r : AdminRequest}

theorem setupTokenValid_consumed (h : y.consumed = true) (got : GoString) :
    y.setupTokenValid token got = false := by
  unfold setupTokenValid
  rw [h]
  simp

theorem auth_ne_setupToken (h : y.consumed = true) :
    y.auth token r ≠ some .setupToken := by
  unfold auth
  simp only [setupTokenValid_consumed h, Bool.false_eq_true, and_false, if_false]
  split
  · simp
  split
  · simp
  split
  · simp
  split
  · simp
  · simp

variable {s : AdminSession}

theorem auth_session (h : y.auth token r = some (.session s)) :
    exists id, y.sessions.lookup id = some s := by
  have hfound : r.cookie.bind y.lookup = some s := by
    unfold auth at h
    simp only at h
    split at h
    · cases h
    split at h
    · cases h
    rename_i found hfound
    split at h
    · cases h
      exact hfound
    split at h
    · cases h
    split at h
    · cases h
      exact hfound
    · cases h
  rcases Option.bind_eq_some_iff.mp hfound with ⟨id, _, hlookup⟩
  exact ⟨id, (Option.filter_eq_some_iff.mp hlookup).left⟩

def showing (id : GoString) : AdminRequest where
  authorization := []
  cookie := some id
  safeMethod := true
  csrfForm := none
  csrfHeader := []

end Bootstrap

/-- At every point of every run, whatever the requests do side by side: one setup request at
most was answered 201; and once `consumeSetup` has returned, the setup token and its sessions
let nobody in, unless a late login got one. -/
theorem bootstrap_retired (token : SetupToken) (now : Instant) (admin : Option GoString)
    (actions : List AdminAction) (y : Bootstrap)
    (hrun : run (Bootstrap.step token) (Bootstrap.start now admin) actions = some y) :
    createdAnswers y.log ≤ 1 ∧
      (Along (Bootstrap.step token) LateLogin (Bootstrap.start now admin) actions ->
        .retired ∈ y.log -> NoSetupGrant token y) := by
  have hsound : Sound y := by
    refine run_keeps (fun _ _ _ => sound_step) ⟨?_, Nat.zero_le _⟩ hrun
    exact ⟨fun _ hs => (nomatch hs), fun hmem => (nomatch hmem)⟩
  constructor
  · have hwinner := hsound.winner
    unfold OneWinner at hwinner
    split at hwinner
    all_goals omega
  intro hlate hretired r
  have hstart : Cleared (Bootstrap.start now admin).sessions (Bootstrap.start now admin).log :=
    fun _ _ _ hs => (nomatch hs)
  have hcleared : Cleared y.sessions y.log :=
    run_invariant (fun _ _ _ h hcond hstep => cleared_step h hcond hstep) hstart hlate hrun
  refine ⟨Bootstrap.auth_ne_setupToken (hsound.consumption.retired hretired), ?_⟩
  intro s hauth
  rcases Bootstrap.auth_session hauth with ⟨id, hs⟩
  exact hcleared hretired id s hs

def printedToken : SetupToken where
  text := str "abc"
  issued := 0

def tokenLogin : List AdminAction :=
  [.login 0 (str "abc"), .checkToken 0, .readTTL 0]

def firstSetup (username : GoString) : List AdminAction :=
  [.setup 1 (str "abc") username, .checkSetup 1,
    .createAdmin 1 (.commit true true), .setConsumed 1, .revokeSubject 1, .answerCreated 1]

def openSession : AdminAction :=
  .createSession 0 (some (str "id", str "csrf"))

/-- A login that is over before the setup request. -/
theorem bootstrap_retired_in_turn :
    exists y, run (Bootstrap.step printedToken) (Bootstrap.start 0 none)
        (tokenLogin ++ [openSession] ++ firstSetup (str "admin")) = some y ∧
      createdAnswers y.log = 1 ∧ NoSetupGrant printedToken y :=
  ⟨_, rfl, rfl, (bootstrap_retired printedToken 0 none
    (tokenLogin ++ [openSession] ++ firstSetup (str "admin")) _ rfl).right (by decide)
      (by decide)⟩

/-- A login whose token was checked before the setup request opens its session behind the
revocation, and the session lets requests in. So does a later session of an
administrator with the name that stands for the token. -/
theorem setup_session_outlives :
    (exists y, run (Bootstrap.step printedToken) (Bootstrap.start 0 none)
        (tokenLogin ++ firstSetup (str "admin") ++ [openSession]) = some y ∧
      .retired ∈ y.log ∧
      y.auth printedToken (Bootstrap.showing (str "id")) =
        some (.session ⟨str "csrf", bootstrapWindow, setupSubject⟩) ∧
      ¬ NoSetupGrant printedToken y) ∧
    (exists y, run (Bootstrap.step printedToken) (Bootstrap.start 0 none)
        (firstSetup setupSubject ++ [.passwordLogin 0 setupSubject,
          .verifyAdmin 0 true, openSession]) = some y ∧
      .retired ∈ y.log ∧ ¬ NoSetupGrant printedToken y) := by
  constructor
  · refine ⟨_, rfl, by decide, rfl, fun hnone => ?_⟩
    exact (hnone (Bootstrap.showing (str "id"))).right _ rfl rfl
  · refine ⟨_, rfl, by decide, fun hnone => ?_⟩
    exact (hnone (Bootstrap.showing (str "id"))).right _ rfl rfl

end ReplxEdge.Admin
