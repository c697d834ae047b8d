import ReplxEdge.Foundation.Runs
import ReplxEdge.Cache.Keys

/-!
# Admission of requests and responses

Which requests may be answered from the store and for how long, and which origin
responses may enter it.
-/

namespace ReplxEdge.Cache

open Foundation
open Net

def ttlByPrefix : List (GoString × Duration) :=
  [(str "/library/sections/", 60 * second),
    (str "/library/collections/", 2 * minute),
    (str "/library/metadata/", 5 * minute),
    (str "/library/sections", 5 * minute),
    (str "/identity", 5 * minute)]

def liveSegments : List GoString :=
  [str "hubs", str "home", str "ondeck", str "continuewatching", str "resume", str ":"]

def longerMatch (p : GoString) (best : Option (GoString × Duration))
    (entry : GoString × Duration) : Option (GoString × Duration) :=
  if !hasSuffix entry.1 (str "/") && p != entry.1 then best
  else
    match best with
    | none => if hasPrefix p entry.1 then some entry else none
    | some found =>
      if hasPrefix p entry.1 && decide (found.1.length < entry.1.length) then
        some entry
      else some found

def cacheable (method path : GoString) : Option Duration :=
  if method ≠ str "GET" then none
  else
    let p := toLower path
    if (split p 47).any fun part => liveSegments.contains part then none
    else (ttlByPrefix.foldl (longerMatch p) none).map Prod.snd

/-- Cache directives that forbid storing, on any line of the field. -/
def forbidsStorage (lines : List GoString) : Bool :=
  lines.any fun line => (split line 44).any fun directive =>
    let name := trimSpace (before directive 61)
    equalFold name (str "no-store") || equalFold name (str "no-cache")

def conditional (h : Header) : Bool :=
  h.fields.any fun field => hasPrefix (toLower field.name) (str "if-")

def requestCacheable (r : Request) : Option Duration :=
  match cacheable r.method r.path with
  | none => none
  | some ttl =>
    if r.contentLength > 0 ∨ r.header.get (str "Range") ≠ [] ∨
        r.header.get (str "Cookie") ≠ [] ∨
        r.header.get (str "Authorization") ≠ [] then none
    else if conditional r.header then none
    else if forbidsStorage (r.header.values (str "Cache-Control")) ||
        contains (toLower (r.header.get (str "Pragma"))) (str "no-cache") then none
    else some ttl

def storableResponse (h : Header) : Bool :=
  let encoding := trimSpace (toLower (h.get (str "Content-Encoding")))
  if encoding ≠ [] ∧ encoding ≠ str "identity" then false
  else if h.values (str "Set-Cookie") ≠ [] then false
  else if forbidsStorage (h.values (str "Cache-Control")) then false
  else (h.values (str "Vary")).all fun line => (split line 44).all fun name =>
    [[], str "accept", str "accept-encoding"].contains (toLower (trimSpace name))

variable {ttl : Duration}

theorem cacheable_method {method path : GoString}
    (h : cacheable method path = some ttl) : method = str "GET" := by
  unfold cacheable at h
  by_cases hmethod : method = str "GET"
  · exact hmethod
  rw [if_pos hmethod] at h
  cases h

theorem requestCacheable_method {r : Request}
    (h : requestCacheable r = some ttl) : r.method = str "GET" := by
  unfold requestCacheable at h
  cases hroute : cacheable r.method r.path with
  | none =>
    rw [hroute] at h
    cases h
  | some routeTtl => exact cacheable_method hroute

end ReplxEdge.Cache
