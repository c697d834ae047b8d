import ReplxEdge.Proxy.OriginRequest
import ReplxEdge.Proxy.Serve
import ReplxEdge.Spike.Credentials

/-!
# Credentials of an origin request

A request is attributed to the first token that the reader finds. Its headers and its
query go to the origin as they came, with whatever other tokens they hold.
-/

namespace ReplxEdge.Proxy

open Foundation
open Net
open Gateway
open Spike
open Trace
open Cache

/-- The request that `serveArtwork` issues: no body, and the client's encodings. -/
def artworkRequest (origin : Origin) (id : GoString) (peer : Peer) (r : Request) :
    Option OriginRequest :=
  match reparsedQuery r.rawQuery with
  | none => none
  | some rawQuery => some
      { method := r.method
        path := singleJoin origin.path r.path
        rawQuery := rawQuery
        header := outHeader id peer false r.header
        body := [] }

/-- The origin requests that are made for a client request, each next to the request it
repeats: the one that reaches the proxy, which direct mode may have aimed at a
substitute, and an artwork request. -/
inductive Forwards (h : Handler) (origin : Origin) (r : Request) :
    Request -> OriginRequest -> Prop where
  | proxied (id : GoString) (peer : Peer) (isCacheable : Bool) {sent : Request}
      {out : OriginRequest} (hproxied : (serveHTTP h r).outcome = .proxied sent)
      (hout : originRequest origin id peer isCacheable sent = some out) :
      Forwards h origin r sent out
  | artwork (id : GoString) (peer : Peer) {out : OriginRequest}
      (hmatch : artworkMatch r.path = true)
      (hout : artworkRequest origin id peer r = some out) : Forwards h origin r r out

def OriginRequest.tokens (out : OriginRequest) : List GoString :=
  (out.header.values (str "X-Plex-Token") ++
    ((parseQuery out.rawQuery).filter fun pair => credentialNames.contains pair.1).map
      Prod.snd).filter fun token => token != []

/-- Every token that is forwarded from a request is one token: in the header unless the
Connection field takes it away, and in the query up to a number sign. -/
structure OneToken (sent : Request) (token : GoString) : Prop where
  header : str "x-plex-token" ∉ connected sent.header -> forall value,
    value ∈ sent.header.values (str "X-Plex-Token") -> value ≠ [] -> value = token
  query : forall pair, pair ∈ parseQuery (before sent.rawQuery 35) ->
    pair.1 ∈ credentialNames -> pair.2 ≠ [] -> pair.2 = token

variable {rawQuery : GoString}

theorem reparsedQuery_some {raw : GoString} (h : reparsedQuery raw = some rawQuery) :
    rawQuery = before raw 35 := by
  unfold reparsedQuery at h
  split at h
  · cases h
  split at h
  · exact (Option.some.inj h).symm
  · cases h

variable {h : Handler} {origin : Origin} {r sent : Request} {out : OriginRequest}

theorem Forwards.copied (hforward : Forwards h origin r sent out) :
    out.rawQuery = before sent.rawQuery 35 ∧
      exists id peer isCacheable, out.header = outHeader id peer isCacheable sent.header := by
  cases hforward with
  | proxied id peer isCacheable _ hout =>
    unfold originRequest at hout
    split at hout
    · cases hout
    rename_i rawQuery hquery
    cases hout
    exact ⟨reparsedQuery_some hquery, id, peer, isCacheable, rfl⟩
  | artwork id peer _ hout =>
    unfold artworkRequest at hout
    split at hout
    · cases hout
    rename_i rawQuery hquery
    cases hout
    exact ⟨reparsedQuery_some hquery, id, peer, false, rfl⟩

theorem endToEnd_token (h : Header) :
    endToEnd h (str "X-Plex-Token") = true <-> str "x-plex-token" ∉ connected h := by
  have hhop : isHopByHop (str "X-Plex-Token") = false := by decide
  have hlower : toLower (str "X-Plex-Token") = str "x-plex-token" := by decide
  simp [endToEnd, hhop, hlower]

theorem Forwards.mem_tokens (hforward : Forwards h origin r sent out) {token : GoString} :
    token ∈ out.tokens <-> token ≠ [] ∧
    ((str "x-plex-token" ∉ connected sent.header ∧
          token ∈ sent.header.values (str "X-Plex-Token")) ∨
        exists pair, pair ∈ parseQuery (before sent.rawQuery 35) ∧
          pair.1 ∈ credentialNames ∧ pair.2 = token) := by
  rcases hforward.copied with ⟨hquery, id, peer, isCacheable, hheader⟩
  have hvalues : token ∈ out.header.values (str "X-Plex-Token") <->
      str "x-plex-token" ∉ connected sent.header ∧
        token ∈ sent.header.values (str "X-Plex-Token") := by
    rw [hheader, outHeader_kept id peer isCacheable sent.header (by decide) (by decide)
      (by decide), ← endToEnd_token]
    cases endToEnd sent.header (str "X-Plex-Token") with
    | true | false =>
      simp
  unfold OriginRequest.tokens
  rw [List.mem_filter, List.mem_append, hvalues, hquery, bne_iff_ne, and_comm]
  simp only [List.mem_map, List.mem_filter, List.contains_iff_mem, and_assoc]

/-- Every token of an origin request is the one its request is attributed to exactly
when the client sent no other. -/
theorem single_credential_iff (h : Handler) (origin : Origin) (r sent : Request)
    (out : OriginRequest) (hforward : Forwards h origin r sent out) :
    (forall token, token ∈ out.tokens -> token = extractToken r) <->
      OneToken sent (extractToken r) := by
  constructor
  · intro hall
    constructor
    · intro hkept value hvalue hne
      exact hall value (hforward.mem_tokens.mpr ⟨hne, Or.inl ⟨hkept, hvalue⟩⟩)
    intro pair hpair hname hne
    exact hall pair.2 (hforward.mem_tokens.mpr ⟨hne, Or.inr ⟨pair, hpair, hname, rfl⟩⟩)
  intro hone token htoken
  rcases hforward.mem_tokens.mp htoken with ⟨hne, hheader | hquery⟩
  · exact hone.header hheader.left token hheader.right hne
  rcases hquery with ⟨pair, hpair, hname, rfl⟩
  exact hone.query pair hpair hname hne

def plainHandler : Handler where
  mode := .direct
  spike := none
  partPolicy := none
  mediaFallback := none
  playback := none
  serveArtwork := fun _ => false
  serveCache := fun _ => false

def browseWith (rawQuery : GoString) : Request :=
  { sectionsRequest rawQuery with
    header := Header.empty.set (str "X-Plex-Token") (str "a") Header.plexToken_isToken
      Header.plexToken_canonical }

def browseForwarded (rawQuery : GoString) : OriginRequest where
  method := str "GET"
  path := str "/library/sections"
  rawQuery := rawQuery
  header := outHeader (str "1") unknownPeer false (browseWith rawQuery).header
  body := []

theorem browse_forwarded (hquery : reparsedQuery rawQuery = some rawQuery) :
    Forwards plainHandler plexOrigin (browseWith rawQuery) (browseWith rawQuery)
    (browseForwarded rawQuery) := by
  refine .proxied (str "1") unknownPeer false ?_ ?_
  · rfl
  unfold originRequest
  rw [show (browseWith rawQuery).rawQuery = rawQuery from rfl, hquery]
  rfl

theorem single_credential_header :
    Forwards plainHandler plexOrigin (browseWith []) (browseWith []) (browseForwarded []) ∧
      forall token, token ∈ (browseForwarded []).tokens ->
        token = extractToken (browseWith []) := by
  have hforward := browse_forwarded (show reparsedQuery [] = some [] by decide)
  refine ⟨hforward, (single_credential_iff _ _ _ _ _ hforward).mpr ⟨?_, ?_⟩⟩
  · intro _
    decide
  intro pair hpair
  cases hpair

/-- The header's token names the user; the query's token is sent along. -/
theorem query_token_forwarded :
    Forwards plainHandler plexOrigin (browseWith (str "X-Plex-Token=b"))
        (browseWith (str "X-Plex-Token=b")) (browseForwarded (str "X-Plex-Token=b")) ∧
      extractToken (browseWith (str "X-Plex-Token=b")) = str "a" ∧
      str "b" ∈ (browseForwarded (str "X-Plex-Token=b")).tokens := by
  refine ⟨browse_forwarded (by decide), by decide, ?_⟩
  decide

end ReplxEdge.Proxy
