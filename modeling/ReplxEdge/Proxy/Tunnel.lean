import ReplxEdge.Foundation.Bytes
import ReplxEdge.Foundation.Runs

/-!
# The WebSocket tunnel

`tunnelWebSocket` takes the client's connection over from the HTTP server, writes the
request to the origin and then copies bytes in both directions. The server, the
client, the origin and the two copies run side by side; a step is one of their
actions. Bytes are those that the client sends after its handshake request.
-/

namespace ReplxEdge.Proxy

open Foundation

inductive TunnelPhase where
  | handling
  | hijacked
  | dialed
  | tunneled
  | closed
deriving DecidableEq

/-- `sent` is all that the client sent. The HTTP server reads ahead of the request into
a buffer; `unread` is still in the client connection, `received` was written to the
origin connection behind the request. `copying` is the goroutine that copies to the
origin, `broken` a failed write of it. -/
structure Tunnel where
  phase : TunnelPhase
  sent : GoString
  buffered : GoString
  unread : GoString
  received : GoString
  answered : Option Nat
  copying : Bool
  broken : Bool
deriving DecidableEq

def Tunnel.start : Tunnel where
  phase := .handling
  sent := []
  buffered := []
  unread := []
  received := []
  answered := none
  copying := false
  broken := false

/-- `ok` is the success of a call of the handler. A turn of the copy reads `count`
bytes and writes the first `written` of them; the copy ends when the client's
connection does. -/
inductive TunnelEvent where
  | clientSends (bytes : GoString)
  | serverBuffers (count : Nat)
  | hijack (ok : Bool)
  | dialOrigin (ok : Bool)
  | writeRequest (ok : Bool)
  | originAnswers (status : Nat)
  | copyToOrigin (count written : Nat)
  | copyEnds
  | originCloses
deriving DecidableEq

namespace Tunnel

/-- The handler goes on, or returns and closes what it opened. -/
def proceed (t : Tunnel) (ok : Bool) (phase : TunnelPhase) : Tunnel :=
  { t with phase := if ok then phase else .closed }

/-- The buffer of the server is dropped by the hijack: only the connection is kept. -/
def step (t : Tunnel) : TunnelEvent -> Option Tunnel
  | .clientSends bytes =>
    some { t with sent := t.sent ++ bytes, unread := t.unread ++ bytes }
  | .serverBuffers count =>
    if t.phase = .handling ∧ count ≤ t.unread.length then
      some
        { t with
          buffered := t.buffered ++ t.unread.take count
          unread := t.unread.drop count }
    else none
  | .hijack ok =>
    if t.phase = .handling then some (t.proceed ok .hijacked)
    else none
  | .dialOrigin ok =>
    if t.phase = .hijacked then some (t.proceed ok .dialed)
    else none
  | .writeRequest ok =>
    if t.phase = .dialed then
      some { t.proceed ok .tunneled with copying := ok }
    else none
  | .originAnswers status =>
    if t.phase = .tunneled ∧ t.answered = none then
      some { t with answered := some status }
    else none
  | .copyToOrigin count written =>
    -- the answer of the origin is not looked at
    if t.phase = .tunneled ∧ t.copying = true ∧ count ≤ t.unread.length ∧
        written ≤ count then
      some
        { t with
          received := t.received ++ t.unread.take written
          unread := t.unread.drop count
          copying := written == count
          broken := written != count }
    else none
  | .copyEnds =>
    if t.phase = .tunneled then some { t with copying := false } else none
  | .originCloses =>
    if t.phase = .tunneled then some { t with phase := .closed }
    else none

end Tunnel

/-!
## What reaches the origin
-/

/-- Nothing reaches an origin that answered anything but 101; one that answered 101 gets
the client's bytes from the first one on, as long as the connection to it holds, and
what it has not got yet can still be read from the client. -/
def CarriesUpgraded (t : Tunnel) : Prop :=
  forall status, t.answered = some status ->
    if status = 101 then t.broken = false -> t.sent = t.received ++ t.unread
    else t.received = []

instance (t : Tunnel) : Decidable (CarriesUpgraded t) :=
  decidableForallSome _ t.answered

/-- What the world around the handler has to do: the server reads nothing ahead, and the client
of an origin that refuses has sent nothing by then and sends nothing afterwards. A client that
waits for the answer 101 is of this kind. -/
def Patient (t : Tunnel) : TunnelEvent -> Prop
  | .clientSends bytes => bytes = [] ∨ t.answered.all (· == 101) = true
  | .serverBuffers count => count = 0
  | .originAnswers status => status = 101 ∨ t.sent = []
  | _ => True

instance (t : Tunnel) (event : TunnelEvent) : Decidable (Patient t event) := by
  cases event <;> unfold Patient <;> infer_instance

def Tunnel.before (t : Tunnel) : Prop :=
  t.phase ≠ .tunneled ∧ t.phase ≠ .closed

/-- Unless a write failed, every byte of the client is in one of three places. -/
structure Conserved (t : Tunnel) : Prop where
  split : t.broken = false -> t.sent = t.buffered ++ (t.received ++ t.unread)
  stopped : t.broken = true -> t.copying = false
  early : t.before -> t.received = [] ∧ t.broken = false
  nothing : t.sent = [] -> t.received = [] ∧ t.unread = []

theorem conserved_start : Conserved Tunnel.start where
  split := fun _ => rfl
  stopped := fun hbroken => by cases hbroken
  early := fun _ => ⟨rfl, rfl⟩
  nothing := fun _ => ⟨rfl, rfl⟩

variable {t : Tunnel}

theorem Conserved.proceed (h : Conserved t) (hbefore : t.before)
    (ok copying : Bool) (phase : TunnelPhase) :
    Conserved { t.proceed ok phase with copying := copying } where
  split := h.split
  stopped := fun hbroken => absurd ((h.early hbefore).right.symm.trans hbroken) (by simp)
  early := fun _ => h.early hbefore
  nothing := h.nothing

variable {t' : Tunnel} {event : TunnelEvent}

theorem conserved_step (h : Conserved t) (hstep : t.step event = some t') : Conserved t' := by
  cases event with
  | clientSends bytes =>
    cases hstep
    refine ⟨fun hwhole => ?_, h.stopped, h.early, fun hnone => ?_⟩
    · simp only [h.split hwhole, List.append_assoc]
    · rcases List.append_eq_nil_iff.mp hnone with ⟨hsent, rfl⟩
      exact ⟨(h.nothing hsent).left, by simp [(h.nothing hsent).right]⟩
  | serverBuffers count =>
    rcases Option.ite_none_right_eq_some.mp hstep with ⟨⟨hphase, _⟩, hstep⟩
    cases hstep
    have hbefore : t.before := by simp [Tunnel.before, hphase]
    rcases h.early hbefore with ⟨hnone, hwhole⟩
    refine ⟨fun _ => ?_, h.stopped, h.early, fun hsent => ?_⟩
    · simp only [h.split hwhole, hnone, List.nil_append, List.append_assoc,
        List.take_append_drop]
    · exact ⟨hnone, by simp [(h.nothing hsent).right]⟩
  | hijack ok =>
    rcases Option.ite_none_right_eq_some.mp hstep with ⟨hphase, hstep⟩
    cases hstep
    exact h.proceed (by simp [Tunnel.before, hphase]) ok t.copying _
  | dialOrigin ok =>
    rcases Option.ite_none_right_eq_some.mp hstep with ⟨hphase, hstep⟩
    cases hstep
    exact h.proceed (by simp [Tunnel.before, hphase]) ok t.copying _
  | writeRequest ok =>
    rcases Option.ite_none_right_eq_some.mp hstep with ⟨hphase, hstep⟩
    cases hstep
    exact h.proceed (by simp [Tunnel.before, hphase]) ok ok _
  | originAnswers status =>
    rcases Option.ite_none_right_eq_some.mp hstep with ⟨_, hstep⟩
    cases hstep
    exact ⟨h.split, h.stopped, h.early, h.nothing⟩
  | copyToOrigin count written =>
    rcases Option.ite_none_right_eq_some.mp hstep with
      ⟨⟨hphase, hcopying, hcount, hwritten⟩, hstep⟩
    cases hstep
    have hwhole : t.broken = false := by
      cases hbroken : t.broken with
      | false => rfl
      | true => exact absurd ((h.stopped hbroken).symm.trans hcopying) (by simp)
    refine ⟨fun hdone => ?_, fun hbroken => ?_, fun hbefore => absurd hphase hbefore.left,
      fun hsent => ?_⟩
    · have heq : written = count := by simpa using hdone
      simp only [heq, List.append_assoc, List.take_append_drop]
      exact h.split hwhole
    · simpa using hbroken
    · simp [(h.nothing hsent).left, (h.nothing hsent).right]
  | copyEnds =>
    rcases Option.ite_none_right_eq_some.mp hstep with ⟨_, hstep⟩
    cases hstep
    exact ⟨h.split, fun _ => rfl, h.early, h.nothing⟩
  | originCloses =>
    rcases Option.ite_none_right_eq_some.mp hstep with ⟨_, hstep⟩
    cases hstep
    exact ⟨h.split, h.stopped, fun hbefore => absurd rfl hbefore.right, h.nothing⟩

/-- Nothing was read ahead, and the client of an origin that refused is silent. -/
structure Direct (t : Tunnel) : Prop where
  buffered : t.buffered = []
  refused : forall status, t.answered = some status -> status ≠ 101 -> t.sent = []

theorem direct_step (h : Direct t) (hpatient : Patient t event)
    (hstep : t.step event = some t') : Direct t' := by
  cases event with
  | clientSends bytes =>
    cases hstep
    refine ⟨h.buffered, fun status hstatus hrefused => ?_⟩
    rcases hpatient with rfl | haccepted
    · simpa using h.refused status hstatus hrefused
    · rw [show t.answered = some status from hstatus] at haccepted
      exact absurd (beq_iff_eq.mp haccepted) hrefused
  | serverBuffers count =>
    rcases Option.ite_none_right_eq_some.mp hstep with ⟨_, hstep⟩
    cases hstep
    exact ⟨by simp [h.buffered, show count = 0 from hpatient], h.refused⟩
  | originAnswers status =>
    rcases Option.ite_none_right_eq_some.mp hstep with ⟨_, hstep⟩
    cases hstep
    refine ⟨h.buffered, fun other hother hrefused => ?_⟩
    cases hother
    exact hpatient.resolve_left hrefused
  | hijack | dialOrigin | writeRequest | copyToOrigin | copyEnds | originCloses =>
    rcases Option.ite_none_right_eq_some.mp hstep with ⟨_, hstep⟩
    cases hstep
    exact ⟨h.buffered, h.refused⟩

def openTunnel : List TunnelEvent :=
  [.hijack true, .dialOrigin true, .writeRequest true]

def patientRun : List TunnelEvent :=
  openTunnel ++ [.originAnswers 101, .clientSends (str "frame"),
    .copyToOrigin 5 5]

def refusedRun : List TunnelEvent :=
  openTunnel ++ [.originAnswers 403, .clientSends (str "frame"),
    .copyToOrigin 5 5]

/-- A frame that arrives together with the handshake stays in the dropped buffer. -/
def earlyFrameRun : List TunnelEvent :=
  [.clientSends (str "frame"), .serverBuffers 5] ++ openTunnel ++
    [.originAnswers 101]

end ReplxEdge.Proxy
