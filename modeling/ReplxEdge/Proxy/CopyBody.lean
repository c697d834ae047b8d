import ReplxEdge.Cache.Entries
import ReplxEdge.Foundation.Streams
import ReplxEdge.Serving.System

/-!
# Streaming and storing a body

One pass over the origin's body serves the client and fills the store. The copy is
bounded by the largest entry: a body within the bound that ends cleanly may be
stored, a longer one is streamed to its end, and a failure of either side ends the
pass.
-/

namespace ReplxEdge.Proxy

open Foundation
open Net
open Cache
open Trace
open Serving (Snapshot WarmerCall)

structure Observed where
  fingerprint : GoString
  scope : GoString
  cacheKey : GoString
  cacheTTL : Duration
  cacheable : Bool
  scopeGen : Nat
  globalGen : Nat

structure Response where
  status : Nat
  header : Header
  body : Feed UInt8

/-- What the handler finds behind the copy: the flag of a failed invalidation, the
generations, `none` when they cannot be read, whether the store takes the entry, and
whether there is a warmer. -/
structure Aftermath where
  broken : Bool
  generations : Option (Nat × Nat)
  setOK : Bool
  warming : Bool

inductive FillCall where
  | set (key : GoString) (entry : Entry) (ttl : Duration) (ok : Bool)
  | grant (fingerprint key : GoString)
  | track (call : WarmerCall)

structure CopyOutcome where
  client : Sink UInt8
  written : Nat
  calls : List FillCall

section CopyBody

variable (o : Observed) (r : Request) (resp : Response) (after : Aftermath)
variable (client : Sink UInt8)

def currentCacheGeneration : Bool :=
  after.generations == some (o.scopeGen, o.globalGen)

def entryOf (body : GoString) : Entry where
  status := resp.status
  contentType := resp.header.get (str "Content-Type")
  headers := safeHeadersOf resp.header
  body := body

def snapshotFor : Snapshot where
  method := r.method
  path := r.path
  rawQuery := r.rawQuery
  accept := r.header.get (str "Accept")
  scope := o.scope
  cls := classOf r.path

/-- The store, the lease and the warmer, each one only behind a store that succeeded. -/
def fillCalls (body : GoString) : List FillCall :=
  .set o.cacheKey (entryOf resp body) o.cacheTTL after.setOK ::
    if after.setOK then
      .grant o.fingerprint o.cacheKey ::
        if after.warming && headerVariation r.header == [] then
          [.track (.trackAuthorized o.cacheKey (snapshotFor o r) o.cacheTTL (extractToken r))]
        else []
    else []

def fills : Bool :=
  o.cacheable && resp.status == 200 && storableResponse resp.header

def copyBody : CopyOutcome :=
  if fills o resp then
    let first := copyN client resp.body (maxEntryBytes + 1)
    if first.err ≠ none ∧ first.err ≠ some .eof then
      ⟨first.sink, first.written, []⟩
    else if maxEntryBytes < first.written then
      let rest := copyAll first.sink (resp.body.after first)
      ⟨rest.sink, first.written + rest.written, []⟩
    else if after.broken || !currentCacheGeneration o after then
      ⟨first.sink, first.written, []⟩
    else ⟨first.sink, first.written, fillCalls o r resp after first.kept⟩
  else
    let all := copyAll client resp.body
    ⟨all.sink, all.written, []⟩

end CopyBody

/-!
## What one pass does
-/

section Pass

variable {o : Observed} {r : Request} {resp : Response} {after : Aftermath}
variable {client : Sink UInt8}

/-- The body ended cleanly, the client took all of it, it is within the bound, and the
generations are still those of the key. -/
structure CompleteFill (o : Observed) (resp : Response) (after : Aftermath)
    (client : Sink UInt8) : Prop where
  ended : resp.body.ending = .clean
  taken : client.takes resp.body.items = true
  fits : resp.body.items.length ≤ maxEntryBytes
  unbroken : after.broken = false
  current : after.generations = some (o.scopeGen, o.globalGen)

theorem write_take_of_fails {items : GoString} {n : Nat} (h : client.takes (items.take n) = false) :
    client.write (items.take n) = client.write items := by
  conv_rhs => rw [← List.take_append_drop n items]
  rw [Sink.write_append, Sink.write_of_not_takes h]

theorem copyBody_client : (copyBody o r resp after client).client =
    client.write resp.body.items := by
  have hsink := copyN_sink client resp.body (maxEntryBytes + 1)
  unfold copyBody
  split
  · simp only
    rcases copyN_cases client resp.body (maxEntryBytes + 1) with hend | hbound | hbroke
    · have hall : resp.body.items.take (maxEntryBytes + 1) = resp.body.items :=
        List.take_of_length_le (Nat.le_of_lt hend.short)
      rw [hall] at hsink
      split
      · exact hsink
      split
      · rename_i hlong
        rw [hend.written] at hlong
        exact absurd hend.short (by omega)
      split
      · exact hsink
      · exact hsink
    · rw [if_neg (by rw [hbound.err]; simp), if_pos (by rw [hbound.written]; omega)]
      change (copyAll (copyN client resp.body (maxEntryBytes + 1)).sink _).sink = _
      rw [copyAll_sink, hsink]
      cases htakes : client.takes (resp.body.items.take (maxEntryBytes + 1)) with
      | true =>
        change (client.write _).write
          (copyN client resp.body (maxEntryBytes + 1)).rest.flatten = _
        rw [hbound.rest htakes, ← Sink.write_append, List.take_append_drop]
      | false =>
        rw [Sink.write_of_not_takes htakes, write_take_of_fails htakes]
    rw [if_pos (by rw [hbroke.err]; simp)]
    exact hsink.trans (write_take_of_fails hbroke.fails)
  · exact copyAll_sink client resp.body

theorem currentCacheGeneration_iff :
    currentCacheGeneration o after = true <-> after.generations = some (o.scopeGen, o.globalGen) :=
  beq_iff_eq

theorem copyBody_calls :
    (fills o resp = true ∧ CompleteFill o resp after client ∧
      (copyBody o r resp after client).calls = fillCalls o r resp after resp.body.items) ∨
    (¬ (fills o resp = true ∧ CompleteFill o resp after client) ∧
      (copyBody o r resp after client).calls = []) := by
  cases hfills : fills o resp with
  | false =>
    right
    unfold copyBody
    rw [hfills]
    exact ⟨fun h => Bool.noConfusion h.left, rfl⟩
  | true =>
    unfold copyBody
    rw [if_pos hfills]
    simp only
    rcases copyN_cases client resp.body (maxEntryBytes + 1) with hend | hbound | hbroke
    · cases hending : resp.body.ending with
      | failed =>
        right
        have herr : (copyN client resp.body (maxEntryBytes + 1)).err =
            some .read := by
          rw [hend.err, hending]
          rfl
        rw [if_pos (by rw [herr]; simp)]
        refine ⟨?_, rfl⟩
        intro h
        exact absurd (hending.symm.trans h.right.ended) (by simp)
      | clean =>
        have herr : (copyN client resp.body (maxEntryBytes + 1)).err =
            some .eof := by
          rw [hend.err, hending]
          rfl
        have hshort := hend.short
        rw [if_neg (by rw [herr]; simp), if_neg (by rw [hend.written]; omega)]
        cases hbroken : after.broken with
        | true =>
          right
          refine ⟨?_, rfl⟩
          intro h
          exact absurd (hbroken.symm.trans h.right.unbroken) (by simp)
        | false =>
          cases hcurrent : currentCacheGeneration o after with
          | false =>
            right
            refine ⟨?_, rfl⟩
            intro h
            have hcheck := currentCacheGeneration_iff.mpr h.right.current
            rw [hcurrent] at hcheck
            cases hcheck
          | true =>
            left
            refine ⟨trivial, ⟨hending, hend.takes, Nat.le_of_lt_succ hshort, hbroken,
              currentCacheGeneration_iff.mp hcurrent⟩, ?_⟩
            change fillCalls o r resp after _ = _
            rw [hend.kept]
    · right
      rw [if_neg (by rw [hbound.err]; simp), if_pos (by rw [hbound.written]; omega)]
      refine ⟨?_, rfl⟩
      intro h
      have hfits := h.right.fits
      have hlong := hbound.long
      omega
    right
    rw [if_pos (by rw [hbroke.err]; simp)]
    refine ⟨?_, rfl⟩
    intro h
    have htaken := h.right.taken
    rw [← List.take_append_drop (maxEntryBytes + 1) resp.body.items, Sink.takes_append,
      hbroke.fails] at htaken
    cases htaken

end Pass

variable {o : Observed} {resp : Response} {after : Aftermath}

def FillCall.stores : FillCall -> Bool
  | .set _ _ _ _ => true
  | _ => false

/-- What one pass over a body does: the client receives the origin's bytes up to the
first error of either side; an entry is set exactly behind a complete fill, and holds
the whole body, all of which the client has; leases and warming follow a store that
succeeded. -/
structure PassAgrees (o : Observed) (resp : Response) (after : Aftermath)
    (client : Sink UInt8) (outcome : CopyOutcome) : Prop where
  streamed : outcome.client.received =
    client.received ++ clip client.room resp.body.items
  stored : forall key entry ttl ok, .set key entry ttl ok ∈ outcome.calls ->
    key = o.cacheKey ∧ entry = entryOf resp resp.body.items ∧
      CompleteFill o resp after client ∧
      outcome.client.received = client.received ++ resp.body.items
  filled : fills o resp = true -> CompleteFill o resp after client ->
    .set o.cacheKey (entryOf resp resp.body.items) o.cacheTTL after.setOK ∈
      outcome.calls
  behind : forall call, call ∈ outcome.calls -> call.stores = false ->
    exists key entry ttl rest,
      outcome.calls = .set key entry ttl true :: rest ∧ call ∈ rest

theorem fillCalls_behind {r : Request} {body : GoString} {call : FillCall}
    (hcall : call ∈ fillCalls o r resp after body) (hother : call.stores = false) :
    exists rest, fillCalls o r resp after body =
        .set o.cacheKey (entryOf resp body) o.cacheTTL true :: rest ∧ call ∈ rest := by
  unfold fillCalls at hcall ⊢
  rcases List.mem_cons.mp hcall with hset | hrest
  · rw [hset] at hother
    cases hother
  cases hok : after.setOK with
  | false =>
    rw [hok] at hrest
    cases hrest
  | true =>
    rw [hok] at hrest
    exact ⟨_, rfl, hrest⟩

variable {entry : Entry} {ttl : Duration} {ok : Bool}

theorem set_of_mem_fillCalls {r : Request} {body key : GoString}
    (hcall : .set key entry ttl ok ∈ fillCalls o r resp after body) :
    key = o.cacheKey ∧ entry = entryOf resp body := by
  unfold fillCalls at hcall
  rcases List.mem_cons.mp hcall with hset | hrest
  · cases hset
    exact ⟨rfl, rfl⟩
  split at hrest
  · rcases List.mem_cons.mp hrest with hgrant | htrack
    · cases hgrant
    split at htrack
    · rw [List.mem_singleton] at htrack
      cases htrack
    · cases htrack
  · cases hrest

/-- For every body, every failure of the origin or the client and whatever is found
behind the copy, the pass streams and stores as stated. -/
theorem copyBody_agrees (o : Observed) (r : Request) (resp : Response) (after : Aftermath)
    (client : Sink UInt8) :
    PassAgrees o resp after client (copyBody o r resp after client) := by
  have hclient : (copyBody o r resp after client).client.received =
      client.received ++ clip client.room resp.body.items := by
    rw [copyBody_client]
    rfl
  rcases @copyBody_calls o r resp after client with ⟨_, hcomplete, hcalls⟩ | ⟨hnot, hcalls⟩
  · constructor
    · exact hclient
    · intro key entry ttl ok hcall
      rw [hcalls] at hcall
      rcases set_of_mem_fillCalls hcall with ⟨hkey, hentry⟩
      refine ⟨hkey, hentry, hcomplete, ?_⟩
      rw [hclient, Sink.clip_room_of_takes hcomplete.taken]
    · intro _ _
      rw [hcalls]
      exact List.mem_cons_self
    intro call hcall hother
    rw [hcalls] at hcall ⊢
    rcases fillCalls_behind hcall hother with ⟨rest, hrest, hmem⟩
    exact ⟨_, _, _, rest, hrest, hmem⟩
  constructor
  · exact hclient
  · intro key entry ttl ok hcall
    rw [hcalls] at hcall
    cases hcall
  · intro hfills hcomplete
    exact absurd ⟨hfills, hcomplete⟩ hnot
  intro call hcall
  rw [hcalls] at hcall
  cases hcall

theorem copyBody_names {r : Request} {client : Sink UInt8} {key : GoString}
    (hcall : .set key entry ttl ok ∈ (copyBody o r resp after client).calls)
    {name value : GoString} (hfield : entry.headers.lookup name = some value) :
    name ∈ safeHeaders := by
  rcases @copyBody_calls o r resp after client with ⟨_, _, hcalls⟩ | ⟨_, hcalls⟩
  · rw [hcalls] at hcall
    rw [(set_of_mem_fillCalls hcall).right] at hfield
    exact safeHeadersOf_names resp.header hfield
  rw [hcalls] at hcall
  cases hcall

def taggedResponse : Response where
  status := 200
  header := (Header.empty.set (str "Server") (str "s") (by decide) (by decide)).set (str "Etag")
    (str "v1") (by decide) (by decide)
  body := ⟨[[91, 93]], .clean, false⟩

theorem copyBody_names_tagged :
    exists entry ttl ok, .set (str "k") entry ttl ok ∈
        (copyBody ⟨[], [], str "k", 60, true, 0, 0⟩ (Request.bareGet (str "/x") [] Header.empty)
          taggedResponse ⟨false, some (0, 0), true, false⟩ ⟨[], none, false⟩).calls ∧
      entry.headers.lookup (str "Etag") = some (str "v1") ∧ str "Etag" ∈ safeHeaders := by
  have hcall : FillCall.set (str "k") (entryOf taggedResponse [91, 93]) 60 true ∈
      (copyBody ⟨[], [], str "k", 60, true, 0, 0⟩ (Request.bareGet (str "/x") [] Header.empty)
        taggedResponse ⟨false, some (0, 0), true, false⟩ ⟨[], none, false⟩).calls :=
    List.mem_cons_self
  exact ⟨_, _, _, hcall, by decide, copyBody_names hcall (by decide : _ = some (str "v1"))⟩

end ReplxEdge.Proxy
