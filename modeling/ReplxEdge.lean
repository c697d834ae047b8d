import ReplxEdge.Cache.GenerationStores
import ReplxEdge.Identity.Devices
import ReplxEdge.Identity.Memory
import ReplxEdge.Identity.Scopes
import ReplxEdge.Artwork.Tiers
import ReplxEdge.Artwork.Protected
import ReplxEdge.Artwork.Recovery
import ReplxEdge.Spike.CheckedPart
import ReplxEdge.Routing.Redirect
import ReplxEdge.MediaPolicy.Tightening
import ReplxEdge.Admin.Bootstrap
import ReplxEdge.Admin.Passwords
import ReplxEdge.Admin.Rates
import ReplxEdge.Admin.Settings
import ReplxEdge.Onboarding.Verified
import ReplxEdge.Onboarding.CustomURL
import ReplxEdge.Sync.SectionLoop
import ReplxEdge.Sync.Marks
import ReplxEdge.Sync.Announcement
import ReplxEdge.Playback.Candidates
import ReplxEdge.Playback.OutputCap
import ReplxEdge.Playback.Stores
import ReplxEdge.Proxy.HeaderCopy
import ReplxEdge.Proxy.IngressModes
import ReplxEdge.Proxy.Containment
import ReplxEdge.Proxy.Tunnel
import ReplxEdge.MediaPolicy.Provenance
import ReplxEdge.Serving.Relay
import ReplxEdge.Serving.Revocation
import ReplxEdge.Serving.OwnProof
import ReplxEdge.Serving.LiveRoutes
import ReplxEdge.Serving.Flights
import ReplxEdge.Serving.Fills
import ReplxEdge.Warming.Bounds
import ReplxEdge.Warming.Yielding
import ReplxEdge.Warming.Forgetting
import ReplxEdge.Warming.Repetition
