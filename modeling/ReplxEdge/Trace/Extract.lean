import ReplxEdge.Foundation.Digest
import ReplxEdge.Net.Request

/-!
# What a request says about its caller

The client identity, the token and its fingerprint, the playback session and the
library item, each read from the first place that holds a value.
-/

namespace ReplxEdge.Trace

open Foundation
open Net

structure Client where
  id : GoString
  product : GoString
  platform : GoString
  version : GoString
  device : GoString
  model : GoString
deriving DecidableEq

def extractClient (r : Request) : Client where
  id := r.header.get (str "X-Plex-Client-Identifier")
  product := r.header.get (str "X-Plex-Product")
  platform := r.header.get (str "X-Plex-Platform")
  version := r.header.get (str "X-Plex-Version")
  device := r.header.get (str "X-Plex-Device")
  model := r.header.get (str "X-Plex-Model")

def firstNonEmpty (texts : List GoString) : GoString :=
  (texts.find? fun text => text != []).getD []

def extractToken (r : Request) : GoString :=
  firstNonEmpty [r.header.get (str "X-Plex-Token"), r.query.get (str "X-Plex-Token"),
    r.query.get (str "token"), r.query.get (str "authToken")]

def fingerprint (secret token : GoString) : GoString :=
  if secret = [] ∨ token = [] then [] else hexEncode (hmacSha256 secret token)

def extractSession (r : Request) : GoString :=
  firstNonEmpty [r.header.get (str "X-Plex-Playback-Session-Id"),
    r.header.get (str "X-Plex-Session-Identifier"), r.query.get (str "session"),
    r.header.get (str "X-Plex-Session-Id")]

def afterMarker (marker : GoString) : GoString -> Option GoString
  | [] => if marker = [] then some [] else none
  | b :: rest =>
    if hasPrefix (b :: rest) marker then some ((b :: rest).drop marker.length)
    else afterMarker marker rest

def metadataID (v : GoString) : GoString :=
  let decoded := (queryUnescape v).getD v
  match afterMarker (str "/library/metadata/") decoded with
  | none => []
  | some rest => rest.takeWhile fun b => !(str "/?&").contains b

def extractRatingKey (r : Request) : GoString :=
  firstNonEmpty [r.query.get (str "ratingKey"), metadataID (r.query.get (str "key")),
    metadataID (r.query.get (str "path")), metadataID (r.query.get (str "url")),
    metadataID r.path]

end ReplxEdge.Trace
