import ReplxEdge.Net.Print
import ReplxEdge.Playback.Targets
import ReplxEdge.Proxy.OriginRequest
import ReplxEdge.Warming.Confinement

/-!
# What a refresh asks for

A snapshot keeps the decoded path of a request and its query without credentials, written
out again. A refresh appends both to the configured origin and lets the parser decide what
the text means. The key of a snapshot is computed from the same fields under the current
generations: before a job is taken up, before it is fetched, and before it is published.
-/

namespace ReplxEdge.Warming

open Foundation
open Net
open Cache
open Proxy
open Playback
open Serving

/-!
## Queries without credentials
-/

/-- What becomes of a value: a text that parses with a query of its own is written again
with that query stripped. -/
def rewriteNested (strip : GoString -> GoString) (value : GoString) : GoString :=
  match parseLink value with
  | none => value
  | some l =>
    if l.url.rawQuery = [] then value
    else (l.withQuery (strip l.url.rawQuery)).text

/-- The number bounds the depth of the nesting. -/
def stripFuel : Nat -> GoString -> GoString
  | 0, _ => []
  | depth + 1, raw => Serving.stripSecrets (rewriteNested (stripFuel depth)) raw

def stripSecrets (raw : GoString) : GoString :=
  stripFuel raw.length raw

theorem stripSecrets_congr {f g : GoString -> GoString} {raw : GoString}
    (h : forall pair, pair ∈ parseQuery raw -> f pair.2 = g pair.2) :
    Serving.stripSecrets f raw = Serving.stripSecrets g raw := by
  unfold Serving.stripSecrets
  have hmap : ((canonicalQuery (parseQuery raw)).map fun pair => (pair.1, f pair.2)) =
      (canonicalQuery (parseQuery raw)).map fun pair => (pair.1, g pair.2) := by
    apply List.map_congr_left
    intro pair hpair
    rw [h pair (List.mem_of_mem_filter hpair)]
  rw [hmap]

theorem rewriteNested_congr {f g : GoString -> GoString} {value : GoString}
    (h : forall raw, raw.length < value.length -> f raw = g raw) :
    rewriteNested f value = rewriteNested g value := by
  unfold rewriteNested
  cases hparse : parseLink value with
  | none => rfl
  | some l =>
    simp only
    split
    · rfl
    rename_i hquery
    rcases Option.map_eq_some_iff.mp hparse with ⟨u, hu, rfl⟩
    rw [h _ (parseURL_rawQuery_length hu hquery)]

theorem stripFuel_eq {depth other : Nat} {raw : GoString} (h : raw.length ≤ depth)
    (hother : raw.length ≤ other) : stripFuel depth raw = stripFuel other raw := by
  induction depth generalizing other raw with
  | zero =>
    cases other with
    | zero => rfl
    | succ other =>
      have hnil : raw = [] := List.eq_nil_of_length_eq_zero (Nat.le_zero.mp h)
      rw [hnil]
      rfl
  | succ depth ih =>
    cases other with
    | zero =>
      have hnil : raw = [] := List.eq_nil_of_length_eq_zero (Nat.le_zero.mp hother)
      rw [hnil]
      rfl
    | succ other =>
      apply stripSecrets_congr
      intro pair hpair
      have hvalue := length_le_of_mem_parseQuery hpair
      apply rewriteNested_congr
      intro nested hnested
      exact ih (by omega) (by omega)

theorem stripSecrets_eq (raw : GoString) :
    stripSecrets raw = Serving.stripSecrets (rewriteNested stripSecrets) raw := by
  unfold stripSecrets
  cases hlength : raw.length with
  | zero =>
    rw [List.eq_nil_of_length_eq_zero hlength]
    rfl
  | succ depth =>
    apply stripSecrets_congr
    intro pair hpair
    have hvalue := length_le_of_mem_parseQuery hpair
    apply rewriteNested_congr
    intro nested hnested
    exact stripFuel_eq (by omega) (le_refl _)

/-- A value that is a link loses its token as well. -/
example : stripSecrets (str "url=%2Fa%3Ftoken%3Dt%26b%3D1&X-Plex-Token=t") =
    str "url=%2Fa%3Fb%3D1" := by
  decide +kernel

theorem number_not_mem_stripSecrets (raw : GoString) : 35 ∉ stripSecrets raw := by
  rw [stripSecrets_eq]
  unfold Serving.stripSecrets
  split
  · exact List.not_mem_nil
  · exact number_not_mem_encode _

/-!
## The request
-/

theorem accept_isToken : isToken (str "Accept") = true := by
  decide

theorem accept_canonical : canonicalName (str "Accept") = str "Accept" := by
  decide

def refreshHeader (n : Snapshot) (credential : GoString) : Header :=
  let named := Header.empty.set (str "X-Plex-Token") credential Header.plexToken_isToken
    Header.plexToken_canonical
  if n.accept = [] then named
  else named.set (str "Accept") n.accept accept_isToken accept_canonical

theorem no_body_declared :
    (0 : Int) = -1 ∨ (0 : Int) = (([] : GoString).length : Int) :=
  Or.inr rfl

def queryText (rawQuery : GoString) : GoString :=
  if rawQuery = [] then [] else 63 :: rawQuery

/-- The request of `refreshChecked`; `none` when the target does not parse or the parsed
request may not be cached. -/
def refreshRequest (base : OriginBase) (n : Snapshot) (credential : GoString) :
    Option OriginRequest :=
  match sendTarget (trimSuffix base.text (str "/") ++ (n.path ++ queryText n.rawQuery)) with
  | none => none
  | some u =>
    if hmethod : isToken n.method = true then
      let r : Net.Request :=
        { method := n.method
          host := u.host
          path := u.path
          rawPath := u.rawPath
          rawQuery := u.rawQuery
          header := refreshHeader n credential
          body := []
          contentLength := 0
          remoteAddr := []
          method_token := hmethod
          length_declared := no_body_declared }
      (requestCacheable r).map fun _ => ⟨r.method, r.path, r.rawQuery, r.header, r.body⟩
    else none

def keyFunc (read : Option (Nat × Nat)) (n : Snapshot) : GoString :=
  read.elim [] fun g =>
    responseKeyGen n.scope n.cls.label n.method n.path (parseQuery n.rawQuery) n.accept g.1 g.2

/-!
## Stored requests
-/

/-- A request that `copyBody` hands to the warmer: `original` is what its key was made from,
`request` what is sent to the origin, and a substituted part leaves only the path and the
query to differ. Requests whose headers vary the response are not tracked. -/
structure Foreground where
  original : Net.Request
  request : Net.Request
  scope : GoString
  generations : Nat × Nat
  ttl : Duration
  cacheable : requestCacheable original = some ttl
  method : request.method = original.method
  header : request.header = original.header
  plain : headerVariation request.header = []

namespace Foreground

variable (f : Foreground)

def key (g : Nat × Nat) : GoString :=
  requestKeyGen f.scope (classOf f.original.path).label f.original g.1 g.2

def snapshot : Snapshot where
  method := f.request.method
  path := f.request.path
  rawQuery := f.request.rawQuery
  accept := f.request.header.get (str "Accept")
  scope := f.scope
  cls := classOf f.request.path

def stripped : Snapshot :=
  { f.snapshot with rawQuery := stripSecrets f.snapshot.rawQuery }

end Foreground

/-!
## The system
-/

/-- What a pass did for a candidate. A response is stored under the generations that were
read before its fetch. -/
inductive Refresh where
  | sent (c : Candidate) (request : OriginRequest)
  | stored (c : Candidate) (read : Nat × Nat) (key : GoString)

/-- The scheduler, the request behind each job by the number of the job, the generations
that the last refresh has read and what was done, the latest first. -/
structure World where
  scheduler : Scheduler
  jobs : List (Nat × Foreground)
  read : Nat × Nat
  journal : List Refresh

def World.start (now : Instant) : World :=
  ⟨Scheduler.start now, [], (0, 0), []⟩

def Lease.credential : Lease -> GoString
  | .context token _ => token
  | .owner token => token

/-- Steps that neither track a request nor involve its key or the origin. -/
def Action.isPlain : Action -> Bool
  | .track _ _ _ _ _ _ => false
  | .matchKey _ => false
  | .captureKey _ => false
  | .fetch _ => false
  | .confirmKey _ => false
  | .publish _ _ => false
  | _ => true

inductive Event where
  | track (orders : Orders) (f : Foreground) (token : GoString)
  | matchKey (read : Option (Nat × Nat))
  | captureKey (read : Option (Nat × Nat))
  | fetch (outcome : Fetch)
  | confirmKey (read : Option (Nat × Nat))
  | publish (applied acknowledged : Bool)
  | plain (a : Action)

namespace World

variable (w : World)

def goOn (y : Scheduler) : World :=
  { w with scheduler := y }

/-- A request that was stored; the job has a number if it is taken. -/
def track (orders : Orders) (f : Foreground) (token : GoString) : World :=
  let y := w.scheduler.track stripSecrets orders (f.key f.generations) f.snapshot f.ttl
    .low (some token)
  { w with
    scheduler := y
    jobs := if y.sequence = w.scheduler.sequence then w.jobs else (y.sequence, f) :: w.jobs }

def matchKey (read : Option (Nat × Nat)) : Option World :=
  match w.scheduler.phase with
  | .chosen _ c => (w.scheduler.matchKey (keyFunc read c.job.snap)).map w.goOn
  | _ => none

def captureKey (read : Option (Nat × Nat)) : Option World :=
  match w.scheduler.phase with
  | .active _ c =>
    (w.scheduler.captureKey (keyFunc read c.job.snap)).map fun y =>
      { w with scheduler := y, read := read.getD w.read }
  | _ => none

/-- Without a request there is an error at once. -/
def fetch (base : OriginBase) (outcome : Fetch) : Option World :=
  match w.scheduler.phase with
  | .fetching _ c _ =>
    match refreshRequest base c.job.snap c.lease.credential with
    | none => (w.scheduler.fetch (.error 0)).map w.goOn
    | some request =>
      (w.scheduler.fetch outcome).map fun y =>
        { w with scheduler := y, journal := .sent c request :: w.journal }
  | _ => none

def confirmKey (read : Option (Nat × Nat)) : Option World :=
  match w.scheduler.phase with
  | .fetched _ c _ _ => (w.scheduler.confirmKey (keyFunc read c.job.snap)).map w.goOn
  | _ => none

def publish (applied acknowledged : Bool) : Option World :=
  match w.scheduler.phase with
  | .permitted _ c storeKey _ =>
    (w.scheduler.publish applied acknowledged).map fun y =>
      { w with
        scheduler := y
        journal := if applied then .stored c w.read storeKey :: w.journal
          else w.journal }
  | _ => none

end World

def World.step (base : OriginBase) (w : World) : Event -> Option World
  | .track orders f token => some (w.track orders f token)
  | .matchKey read => w.matchKey read
  | .captureKey read => w.captureKey read
  | .fetch outcome => w.fetch base outcome
  | .confirmKey read => w.confirmKey read
  | .publish applied acknowledged => w.publish applied acknowledged
  | .plain a => if a.isPlain then (w.scheduler.step stripSecrets a).map w.goOn else none

end ReplxEdge.Warming
