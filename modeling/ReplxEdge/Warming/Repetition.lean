import ReplxEdge.Warming.Refresh

/-!
# What a refresh repeats

A job is taken up only while the key of its snapshot is the key that its request was stored
under. So the snapshot has the path, the Accept value and the query pairs of the request,
and is published under the key that the request would have. What is sent is another matter:
the decoded path is written behind the origin as it is, and a percent sign, a question mark
or a number sign in it means something else there.
-/

namespace ReplxEdge.Warming

open Foundation
open Net
open Cache
open Proxy
open Playback
open Serving

variable {y : Scheduler} {phase : Phase} {jobs : List (Nat × Foreground)}
variable {read : Option (Nat × Nat)}

/-!
## Paths behind the origin
-/

/-- An origin without an escaped path, a query or a fragment, and a path behind it. -/
structure Rooted (base : OriginBase) (path : GoString) : Prop where
  escape : 37 ∉ pathText base.tail
  query : 63 ∉ base.tail
  fragment : 35 ∉ base.tail
  rooted : path.head? = some 47

/-- A decoded path that reads the same when it is decoded again. -/
structure Literal (path : GoString) : Prop where
  escape : 37 ∉ path
  query : 63 ∉ path
  fragment : 35 ∉ path

section Origin

variable {base : OriginBase} {path : GoString}

theorem mem_tail_of_mem_stem {b : UInt8} (h : b ∈ base.stem) : b ∈ base.tail := by
  rcases base.tail_cases with hsame | hslash
  · rw [hsame]
    exact h
  rw [hslash]
  exact List.mem_append_left [47] h

theorem Rooted.trimmed (h : Rooted base path) :
    trimSuffix base.url.path (str "/") = base.path := by
  have hurl : pathText base.tail = base.url.path := by
    have hparse := (parseTail_some base.parseTail_eq).right.right.left
    rw [pathUnescape_of_not_mem h.escape] at hparse
    exact Option.some.inj hparse
  have hstem := base.pathUnescape_stem
  have hmark : 63 ∉ base.stem := fun hmem => h.query (mem_tail_of_mem_stem hmem)
  have hnumber : 35 ∉ base.stem := fun hmem => h.fragment (mem_tail_of_mem_stem hmem)
  rcases base.tail_cases with hsame | hslash
  · -- Without a final slash there is none to take from the path either.
    have hescape := h.escape
    rw [hsame] at hescape
    rw [pathUnescape_of_not_mem hescape, Option.some.injEq] at hstem
    rw [← hurl, ← hstem, ← hsame]
    by_cases hnil : pathText base.tail = []
    · rw [hnil]
      rfl
    have hwhole : (before base.tail 47) ++ pathText base.tail = base.tail := by
      unfold pathText
      rw [hierarchyText_self h.query h.fragment]
      exact List.takeWhile_append_dropWhile
    have htrim := trimSuffix_append (before base.tail 47) hnil 47
    rw [hwhole] at htrim
    have hkept : before base.tail 47 ++ trimSuffix (pathText base.tail) [47] =
        before base.tail 47 ++ pathText base.tail := by
      rw [hwhole, ← htrim]
      exact hsame.symm
    exact List.append_cancel_left hkept
  have hpath : pathText base.tail = pathText base.stem ++ [47] := by
    rw [hslash, pathText_append hmark hnumber]
    split
    · rfl
    rename_i hnone
    rw [pathText_of_not_mem hnone]
    rfl
  have hescape : 37 ∉ pathText base.stem := by
    intro hmem
    apply h.escape
    rw [hpath]
    exact List.mem_append_left [47] hmem
  rw [pathUnescape_of_not_mem hescape, Option.some.injEq] at hstem
  rw [← hurl, hpath, ← hstem]
  exact trimSuffix_append_self (pathText base.stem) [47]

theorem Rooted.joined (h : Rooted base path) :
    singleJoin base.url.path path = base.path ++ path := by
  unfold singleJoin
  rw [h.trimmed]
  have hrooted := h.rooted
  cases path with
  | nil => cases hrooted
  | cons b rest =>
    cases hrooted
    rfl

theorem Rooted.plainPath_iff (h : Rooted base path) :
    PlainPath base path <-> Literal path := by
  constructor
  · intro hplain
    exact ⟨hplain.escape, hplain.query, hplain.fragment⟩
  intro hliteral
  exact ⟨fun hmem => h.query (mem_tail_of_mem_stem hmem),
    fun hmem => h.fragment (mem_tail_of_mem_stem hmem), hliteral.query, hliteral.fragment,
    hliteral.escape, Or.inl h.rooted⟩

end Origin

/-!
## What is sent
-/

section Sent

variable {base : OriginBase} {n : Snapshot} {credential : GoString} {sent : OriginRequest}

theorem hierarchyText_queryText (rawQuery : GoString) :
    hierarchyText (queryText rawQuery) = [] := by
  unfold queryText
  split
  · rfl
  · exact hierarchyText_mark rawQuery

theorem refreshRequest_some (h : refreshRequest base n credential = some sent) :
    pathUnescape (pathText (base.stem ++ (n.path ++ queryText n.rawQuery))) = some sent.path ∧
      sent.rawQuery = after (before (base.stem ++ (n.path ++ queryText n.rawQuery)) 35) 63 ∧
      sent.header = refreshHeader n credential := by
  unfold refreshRequest at h
  split at h
  · cases h
  rename_i u hsend
  split at h
  · rcases Option.map_eq_some_iff.mp h with ⟨ttl, _, rfl⟩
    rcases base.sendTarget_some hsend with ⟨parsed, hparsed, rfl⟩
    rcases parseTail_some hparsed with ⟨_, _, hpath, hquery⟩
    exact ⟨hpath, hquery, rfl⟩
  · cases h

theorem refreshRequest_path_iff (h : refreshRequest base n credential = some sent)
    (hrooted : Rooted base n.path) :
    sent.path = base.path ++ n.path <-> Literal n.path := by
  rcases refreshRequest_some h with ⟨hpath, _, _⟩
  have htail := hierarchyText_queryText n.rawQuery
  rw [← hrooted.plainPath_iff]
  constructor
  · intro hsame
    have hne : n.path ≠ [] := by
      intro hnil
      have hhead := hrooted.rooted
      rw [hnil] at hhead
      cases hhead
    rw [hsame] at hpath
    exact plainPath_of_path htail hne hpath
  intro hplain
  rw [hplain.pathText_eq htail, Option.some.injEq] at hpath
  exact hpath.symm

theorem refreshRequest_query (h : refreshRequest base n credential = some sent)
    (hplain : PlainPath base n.path) (hnumber : 35 ∉ n.rawQuery) :
    sent.rawQuery = n.rawQuery := by
  rw [(refreshRequest_some h).right.left]
  unfold queryText
  split
  · rename_i hnil
    have hwhole : 35 ∉ base.stem ++ (n.path ++ []) := by
      rw [List.append_nil, List.mem_append, not_or]
      exact ⟨hplain.stem_fragment, hplain.fragment⟩
    rw [before_of_not_mem hwhole, after_append hplain.stem_query, after_append hplain.query, hnil]
    rfl
  · exact hplain.query_eq hnumber

end Sent

/-!
## Accept
-/

theorem values_set_self (h : Header) {name value : GoString} (htoken : isToken name = true)
    (hcanonical : canonicalName name = name) :
    (h.set name value htoken hcanonical).values name = [value] := by
  unfold Header.values Header.set
  rw [List.find?_cons_of_pos (by simp)]
  rfl

theorem refreshHeader_accept (n : Snapshot) (credential : GoString) :
    (refreshHeader n credential).get (str "Accept") = n.accept := by
  unfold refreshHeader Header.get
  simp only
  split
  · rename_i hnil
    rw [Header.values_set_ne _ _ _ (by decide), hnil]
    rfl
  rw [values_set_self]
  rfl

variable {h : Header}

theorem connected_of_plain (hplain : headerVariation h = []) :
    connected h = [] := by
  have hnone : h.fields.filter varies = [] := by
    by_contra hsome
    unfold headerVariation at hplain
    rw [if_neg hsome] at hplain
    have hlength := congrArg List.length hplain
    rw [hexEncode_length, sha256_length] at hlength
    cases hlength
  have hvalues : h.values (str "Connection") = [] := by
    rw [Header.values_eq_nil_iff]
    intro field hfield hname
    have hvaries : varies field = true :=
      varies_of_name hfield (by rw [hname]; decide) (by rw [hname]; decide)
    exact (List.filter_eq_nil_iff.mp hnone) field hfield hvaries
  unfold connected Header.get
  rw [hvalues]
  rfl

theorem outHeader_accept (hplain : headerVariation h = []) (id : GoString)
    (peer : Peer) : (outHeader id peer true h).get (str "Accept") = h.get (str "Accept") := by
  have hkept : endToEnd h (str "Accept") = true := by
    rw [endToEnd_accept, connected_of_plain hplain]
    exact List.not_mem_nil
  unfold Header.get
  rw [outHeader_values _ _ _ _ (by decide), if_pos hkept]

/-!
## Keys
-/

theorem keyText_ne_nil (parts : KeyParts) : parts.text ≠ [] := by
  have hmem : str "replx_edge" ∈ parts.leading ++ parts.trailing ++
      (if parts.variation = [] then [] else [parts.variation]) :=
    List.mem_append_left _ (List.mem_append_left _ List.mem_cons_self)
  have hlength := length_le_join 58 hmem
  intro hnil
  unfold KeyParts.text at hnil
  rw [hnil] at hlength
  exact absurd hlength (by decide)

namespace Foreground

variable {f : Foreground}

/-- What the digest in the key of the request is taken of. -/
def message (f : Foreground) : GoString :=
  hashInput f.original.method f.original.path f.original.query
    (f.original.header.get (str "Accept"))

/-- What the digest in the key of the snapshot is taken of. -/
def strippedMessage (f : Foreground) : GoString :=
  hashInput f.stripped.method f.stripped.path (parseQuery f.stripped.rawQuery)
    f.stripped.accept

def Separates (f : Foreground) : Prop :=
  hashPrefix f.message = hashPrefix f.strippedMessage -> f.message = f.strippedMessage

theorem key_ne_nil (f : Foreground) (g : Nat × Nat) : f.key g ≠ [] := by
  unfold key
  rw [requestKeyGen_eq_text]
  exact keyText_ne_nil _

variable {g g' : Nat × Nat}

theorem parts_of_match (h : keyFunc (some g) f.stripped = f.key g') :
    responseKeyParts f.scope (classOf f.request.path) f.stripped.method f.stripped.path
    (parseQuery f.stripped.rawQuery) f.stripped.accept g.1 g.2 =
      requestKeyParts f.scope (classOf f.original.path) f.original g'.1 g'.2 := by
  apply KeyParts.text_inj
  rw [← responseKeyGen_eq_text, ← requestKeyGen_eq_text]
  exact h

theorem key_of_match (h : keyFunc (some g) f.stripped = f.key g')
    (read : Nat × Nat) : keyFunc (some read) f.stripped = f.key read := by
  have hparts := parts_of_match h
  show responseKeyGen f.scope (classOf f.request.path).label _ _ _ _ _ _ = _
  unfold key
  rw [responseKeyGen_eq_text, requestKeyGen_eq_text]
  congr 1
  exact KeyParts.ext (congrArg KeyParts.cls hparts :) rfl
    (congrArg KeyParts.representation hparts :) rfl rfl (congrArg KeyParts.hash hparts :)
    (congrArg KeyParts.variation hparts :)

theorem pairs_of_match (h : keyFunc (some g) f.stripped = f.key g') (hseparates : f.Separates) :
    (nonSecretPairs f.stripped.rawQuery).Perm (nonSecretPairs f.original.rawQuery) := by
  have hhash : hashPrefix f.message = hashPrefix f.strippedMessage :=
    (congrArg KeyParts.hash (parts_of_match h)).symm
  have hmessage := hseparates hhash
  unfold message strippedMessage at hmessage
  have haccept : f.stripped.accept = f.original.header.get (str "Accept") := by
    rw [← f.header]
    rfl
  have hplain : forall q : Values, (0 : UInt8) ∉ q.encode := fun q =>
    separator_not_mem_encode (by decide) (by decide) (by decide) q
  have hsplit : forall method path : GoString, forall q : Values,
      hashInput method path q (f.original.header.get (str "Accept")) =
        (toUpperToken method ++ 0 :: (path ++ 0 :: f.original.header.get (str "Accept"))) ++
          0 :: (canonicalQuery q).encode := by
    intro method path q
    simp [hashInput]
  rw [haccept, hsplit, hsplit] at hmessage
  have hquery := (separator_append_inj (hplain _) (hplain _) hmessage).right
  rw [nonSecretPairs_eq, nonSecretPairs_eq]
  exact encode_perm hquery.symm

end Foreground

/-!
## Steps of the scheduler
-/

structure Renews (job job' : Job) : Prop where
  key : job'.key = job.key
  snap : job'.snap = job.snap
  sequence : job'.sequence = job.sequence

theorem Renews.refl (job : Job) : Renews job job :=
  ⟨rfl, rfl, rfl⟩

structure Stays (y y' : Scheduler) : Prop where
  sequence : y'.sequence = y.sequence
  phase : y'.phase = y.phase
  tracked : forall id job', y'.tracked.lookup id = some job' ->
    exists job, y.tracked.lookup id = some job ∧ Renews job job'

theorem Stays.of_fewer {y' : Scheduler} (hsequence : y'.sequence = y.sequence)
    (hphase : y'.phase = y.phase)
    (hfewer : forall id job, y'.tracked.lookup id = some job -> y.tracked.lookup id = some job) :
    Stays y y' :=
  ⟨hsequence, hphase, fun id job hfound => ⟨job, hfewer id job hfound, Renews.refl job⟩⟩

theorem Stays.refl (y : Scheduler) : Stays y y :=
  Stays.of_fewer rfl rfl fun _ _ hfound => hfound

variable {u : Scheduler}

theorem Stays.trans {y' : Scheduler} (h : Stays y u) (hnext : Stays u y') : Stays y y' := by
  refine ⟨hnext.sequence.trans h.sequence, hnext.phase.trans h.phase, ?_⟩
  intro id job' hfound
  rcases hnext.tracked id job' hfound with ⟨middle, hmiddle, hsecond⟩
  rcases h.tracked id middle hmiddle with ⟨job, hjob, hfirst⟩
  exact ⟨job, hjob, hsecond.key.trans hfirst.key, hsecond.snap.trans hfirst.snap,
    hsecond.sequence.trans hfirst.sequence⟩

section Quiet

variable (y : Scheduler)

theorem stays_expireContexts : Stays y y.expireContexts :=
  Stays.of_fewer rfl rfl fun _ _ hfound => hfound

theorem stays_evictJob {order : Order (GoString × Job)} {incoming : Option Priority}
    {y' : Scheduler} (h : y.evictJob order incoming = some y') : Stays y y' := by
  rcases Option.map_eq_some_iff.mp h with ⟨w, hw, rfl⟩
  rcases Warmer.evictJob_cases hw with rfl | ⟨id, rfl⟩
  · exact Stays.refl y
  · exact Stays.of_fewer rfl rfl fun _ _ => Table.lookup_of_delete

theorem stays_forgetScope (scope : GoString) : Stays y (y.forgetScope scope) := by
  unfold Scheduler.forgetScope
  split
  · exact Stays.refl y
  · exact Stays.of_fewer rfl rfl fun _ _ => Table.lookup_of_keep

theorem stays_reject (scope : GoString) : Stays y (y.reject scope) :=
  Stays.of_fewer rfl rfl fun _ _ => Table.lookup_of_keep

theorem stays_trim (order : Order (GoString × Job)) (n : Nat) : Stays y (y.trim order n) :=
  Warmer.trim_rule (P := fun w => Stays y { y with toWarmer := w })
    (fun _ _ h => h.trans (Stays.of_fewer rfl rfl fun _ _ => Table.lookup_of_delete)) n
    (Stays.refl y)

theorem stays_configure (order : Order (GoString × Job)) (c : WarmerConfig) :
    Stays y (y.configure order c) := by
  unfold Scheduler.configure
  split
  · have hkept : Stays y { (if c.enabled then y else y.disable) with config := c } := by
      split
      all_goals exact Stays.of_fewer rfl rfl fun _ _ hfound => hfound
    exact hkept.trans (stays_trim _ order _)
  · exact Stays.refl y

theorem stays_updateJob (c : Candidate) {f : Job -> Job} (hf : forall job, Renews job (f job)) :
    Stays y (y.updateJob c f) := by
  unfold Scheduler.updateJob
  rcases Warmer.updateJob_cases y.toWarmer c.id c.job.sequence f with hsame | ⟨job, hjob, hset⟩
  · rw [hsame]
    exact Stays.refl y
  rw [hset]
  refine ⟨rfl, rfl, ?_⟩
  intro id job' hfound
  rw [Table.lookup_set] at hfound
  split at hfound
  · rename_i hsame
    cases hfound
    exact ⟨job, hsame ▸ hjob, hf job⟩
  · exact ⟨job', hfound, Renews.refl job'⟩

theorem stays_observe (orders : Orders) (scope : GoString) (credential : Option GoString) :
    Stays y (y.observe orders scope credential) := by
  cases credential with
  | none => exact stays_expireContexts y
  | some token => exact Stays.of_fewer rfl rfl fun _ _ hfound => hfound

end Quiet

/-- How a step moves the pass, apart from the steps with a key or the origin. -/
inductive Moves (y : Scheduler) : Phase -> Phase -> Prop where
  | same (phase : Phase) : Moves y phase phase
  | idle (phase : Phase) : Moves y phase .idle
  | resolving (phase : Phase) : Moves y phase .resolving
  | looping (phase : Phase) (p : Pass) : Moves y phase (.looping p)
  | ending (phase : Phase) (p : Pass) (c : Candidate) (n : Nat) (result : Ending) :
      Moves y phase (.ending p c n result)
  | chosen (phase : Phase) (p : Pass) (c : Candidate)
      (htracked : y.tracked.lookup c.id = some c.job) : Moves y phase (.chosen p c)
  | active (p : Pass) (c : Candidate) : Moves y (.keyed p c) (.active p c)
  | permitted (p : Pass) (c : Candidate) (storeKey : GoString) (n : Nat) :
      Moves y (.confirmed p c storeKey n) (.permitted p c storeKey n)

structure Advances (y y' : Scheduler) : Prop where
  sequence : y'.sequence = y.sequence
  tracked : forall id job', y'.tracked.lookup id = some job' ->
    exists job, y.tracked.lookup id = some job ∧ Renews job job'
  moves : Moves y y.phase y'.phase

theorem Stays.advances {y' : Scheduler} (h : Stays y y') : Advances y y' := by
  refine ⟨h.sequence, h.tracked, ?_⟩
  rw [h.phase]
  exact .same y.phase

theorem Stays.goTo (h : Stays y u) (hmoves : Moves y y.phase phase) : Advances y (u.goTo phase) :=
  ⟨h.sequence, h.tracked, hmoves⟩

section Pass

variable {y y' : Scheduler}

theorem advances_beginPass (y : Scheduler) : Advances y y.beginPass := by
  unfold Scheduler.beginPass
  split
  · split
    · exact (Stays.refl y).advances
    · exact (Stays.refl y).goTo (.resolving _)
  · exact (Stays.refl y).advances

theorem advances_resolve {token found : Option GoString}
    (h : y.resolve token found = some y') : Advances y y' := by
  unfold Scheduler.resolve at h
  split at h
  · cases h
    exact ⟨rfl, (Stays.refl y).tracked, .looping _ _⟩
  · cases h

theorem advances_choose {orders : Orders} (h : y.choose orders = some y') : Advances y y' := by
  unfold Scheduler.choose at h
  split at h
  · rename_i p hphase
    have hfresh := stays_expireContexts y
    have hdrop : Stays y (y.expireContexts.dropHopeless p) :=
      hfresh.trans (Stays.of_fewer rfl rfl fun _ _ => Table.lookup_of_keep)
    split at h
    · cases h
      exact (Stays.refl y).goTo (.idle _)
    simp only at h
    split at h
    · cases h
      exact hfresh.goTo (.idle _)
    split at h
    · cases h
      exact hdrop.goTo (.idle _)
    rename_i c hnext
    cases h
    exact hdrop.goTo (.chosen _ p c (choosable_nextCandidate hnext).tracked)
  · cases h

theorem advances_stop (h : y.stop = some y') : Advances y y' := by
  unfold Scheduler.stop at h
  split at h
  · cases h
    exact (Stays.refl y).goTo (.idle _)
  · cases h

theorem advances_activate {canWarm : Bool} (h : y.activate canWarm = some y') :
    Advances y y' := by
  unfold Scheduler.activate at h
  split at h
  · rename_i p c hphase
    split at h
    · cases h
      exact (Stays.refl y).goTo (.idle _)
    cases h
    refine ⟨rfl, (Stays.refl y).tracked, ?_⟩
    rw [hphase]
    exact .active p c
  · cases h

theorem advances_permit (h : y.permit = some y') : Advances y y' := by
  unfold Scheduler.permit at h
  split at h
  · rename_i p c storeKey n hphase
    split at h
    · cases h
      refine ⟨rfl, (Stays.refl y).tracked, ?_⟩
      rw [hphase]
      exact .permitted p c storeKey n
    cases h
    exact (Stays.refl y).goTo (.ending _ _ _ _ _)
  · cases h

theorem advances_settle (h : y.settle = some y') : Advances y y' := by
  unfold Scheduler.settle at h
  split at h
  · rename_i p c n result hphase
    have hrenewed : forall job, Renews job (Warmer.refreshedNow y.now job) :=
      fun _ => ⟨rfl, rfl, rfl⟩
    have hfailed : forall job, Renews job (Warmer.backOff y.now job) := fun _ => ⟨rfl, rfl, rfl⟩
    cases h
    cases result with
    | succeeded => exact (stays_updateJob y c hrenewed).goTo (.looping _ _)
    | failed status =>
      have hrejected : Stays y (if rejectedStatus status then y.reject c.scope else y) := by
        split
        · exact stays_reject y c.scope
        · exact Stays.refl y
      exact (hrejected.trans (stays_updateJob _ c hfailed)).goTo (.looping _ _)
  · cases h

theorem advances_plain {strip : GoString -> GoString} {a : Action} (hplain : a.isPlain = true)
    (h : y.step strip a = some y') : Advances y y' := by
  cases a with
  | tick | setPaused | foreground =>
    cases h
    exact ⟨rfl, (Stays.refl y).tracked, .same _⟩
  | forgetScope scope =>
    cases h
    exact (stays_forgetScope y scope).advances
  | configure order c =>
    cases h
    exact (stays_configure y order c).advances
  | background =>
    simp only [Scheduler.step] at h
    split at h
    · cases h
      exact ⟨rfl, (Stays.refl y).tracked, .same _⟩
    · cases h
  | stats =>
    cases h
    exact (stays_expireContexts y).advances
  | beginPass =>
    cases h
    exact advances_beginPass y
  | resolve token found => exact advances_resolve h
  | choose orders => exact advances_choose h
  | stop => exact advances_stop h
  | activate canWarm => exact advances_activate h
  | permit => exact advances_permit h
  | settle => exact advances_settle h
  | track | matchKey | captureKey | fetch | confirmKey | publish => cases hplain

end Pass

theorem track_cases (y : Scheduler) (strip : GoString -> GoString) (orders : Orders)
    (key : GoString) (n : Snapshot) (ttl : Duration) (priority : Priority)
    (credential : Option GoString) :
    Stays y (y.track strip orders key n ttl priority credential) ∨ exists seen worth, Stays y seen ∧
        y.track strip orders key n ttl priority credential =
          seen.setJob key { n with rawQuery := strip n.rawQuery } ttl worth
            credential.isSome := by
  unfold Scheduler.track
  split
  · have hseen := stays_observe y orders n.scope credential
    simp only
    split
    · split
      · exact Or.inl hseen
      rename_i evicted hevicted
      exact Or.inr ⟨evicted, _, hseen.trans (stays_evictJob _ hevicted), rfl⟩
    · exact Or.inr ⟨_, _, hseen, rfl⟩
  · exact Or.inl (Stays.refl y)

/-!
## The request behind a job
-/

def Behind (jobs : List (Nat × Foreground)) (job : Job) : Prop :=
  exists f, (job.sequence, f) ∈ jobs ∧ job.key = f.key f.generations ∧ job.snap = f.stripped

def Matched (job : Job) : Prop :=
  exists g, keyFunc (some g) job.snap = job.key

def Phase.Follows (jobs : List (Nat × Foreground)) (read : Nat × Nat) : Phase -> Prop
  | .chosen _ c => Behind jobs c.job
  | .keyed _ c => Behind jobs c.job ∧ Matched c.job
  | .active _ c => Behind jobs c.job ∧ Matched c.job
  | .fetching _ c storeKey =>
    Behind jobs c.job ∧ Matched c.job ∧ storeKey = keyFunc (some read) c.job.snap
  | .fetched _ c storeKey _ =>
    Behind jobs c.job ∧ Matched c.job ∧ storeKey = keyFunc (some read) c.job.snap
  | .confirmed _ c storeKey _ =>
    Behind jobs c.job ∧ Matched c.job ∧ storeKey = keyFunc (some read) c.job.snap
  | .permitted _ c storeKey _ =>
    Behind jobs c.job ∧ Matched c.job ∧ storeKey = keyFunc (some read) c.job.snap
  | _ => True

def Refresh.Follows (base : OriginBase) (jobs : List (Nat × Foreground)) : Refresh -> Prop
  | .sent c request =>
    Behind jobs c.job ∧ Matched c.job ∧
      refreshRequest base c.job.snap c.lease.credential = some request
  | .stored c read key =>
    Behind jobs c.job ∧ Matched c.job ∧ key = keyFunc (some read) c.job.snap

structure Traced (base : OriginBase) (w : World) : Prop where
  numbers : forall number f, (number, f) ∈ w.jobs -> number ≤ w.scheduler.sequence
  unique : forall number f g, (number, f) ∈ w.jobs -> (number, g) ∈ w.jobs -> f = g
  jobs : forall id job, w.scheduler.tracked.lookup id = some job -> Behind w.jobs job
  phase : w.scheduler.phase.Follows w.jobs w.read
  journal : forall r, r ∈ w.journal -> r.Follows base w.jobs

variable {job : Job}

theorem Behind.renewed {job' : Job} (h : Behind jobs job)
    (hrenews : Renews job job') : Behind jobs job' := by
  unfold Behind at h ⊢
  rw [hrenews.key, hrenews.snap, hrenews.sequence]
  exact h

theorem Behind.cons (h : Behind jobs job)
    (entry : Nat × Foreground) : Behind (entry :: jobs) job := by
  rcases h with ⟨f, hmem, hkey, hsnap⟩
  exact ⟨f, List.mem_cons_of_mem entry hmem, hkey, hsnap⟩

theorem Phase.Follows.cons {read : Nat × Nat} (h : phase.Follows jobs read)
    (entry : Nat × Foreground) :
    phase.Follows (entry :: jobs) read := by
  cases phase with
  | idle | resolving | looping | ending => trivial
  | chosen p c => exact Behind.cons h entry
  | keyed | active | fetching | fetched | confirmed | permitted =>
    exact ⟨h.left.cons entry, h.right⟩

theorem Refresh.Follows.cons {base : OriginBase} {r : Refresh}
    (h : r.Follows base jobs) (entry : Nat × Foreground) : r.Follows base (entry :: jobs) := by
  cases r with
  | sent | stored => exact ⟨h.left.cons entry, h.right⟩

theorem traced_start (base : OriginBase) (now : Instant) : Traced base (World.start now) where
  numbers := fun _ _ h => (nomatch h)
  unique := fun _ _ _ h => (nomatch h)
  jobs := fun _ _ h => (nomatch h)
  phase := trivial
  journal := fun _ h => (nomatch h)

namespace Traced

variable {base : OriginBase} {w v : World}

theorem goOn (h : Traced base w) (hsequence : y.sequence = w.scheduler.sequence)
    (htracked : forall id job', y.tracked.lookup id = some job' ->
      exists job, w.scheduler.tracked.lookup id = some job ∧ Renews job job')
    (hphase : y.phase.Follows w.jobs w.read) : Traced base (w.goOn y) := by
  refine ⟨?_, h.unique, ?_, hphase, h.journal⟩
  · intro number f hmem
    show number ≤ y.sequence
    rw [hsequence]
    exact h.numbers number f hmem
  intro id job' hfound
  rcases htracked id job' hfound with ⟨job, hjob, hrenews⟩
  exact (h.jobs id job hjob).renewed hrenews

theorem of_stays (h : Traced base w) (hstays : Stays w.scheduler y) :
    Traced base (w.goOn y) := by
  refine h.goOn hstays.sequence hstays.tracked ?_
  rw [hstays.phase]
  exact h.phase

theorem goTo (h : Traced base w) (hphase : phase.Follows w.jobs w.read) :
    Traced base (w.goOn (w.scheduler.goTo phase)) :=
  h.goOn rfl (Stays.refl w.scheduler).tracked hphase

theorem moves (h : Traced base w) (hadvances : Advances w.scheduler y) :
    Traced base (w.goOn y) := by
  refine h.goOn hadvances.sequence hadvances.tracked ?_
  have hphase := h.phase
  have hmoves := hadvances.moves
  generalize w.scheduler.phase = before at hphase hmoves
  generalize y.phase = after at hmoves
  cases hmoves with
  | same | active | permitted => exact hphase
  | idle | resolving | looping | ending => trivial
  | chosen _ p c htracked => exact h.jobs c.id c.job htracked

theorem setJob {seen : Scheduler} {f : Foreground} {worth : Priority} {requires : Bool}
    (h : Traced base w) (hstays : Stays w.scheduler seen) :
    Traced base { w with
      scheduler := seen.setJob (f.key f.generations) f.stripped f.ttl worth requires
      jobs := (seen.sequence + 1, f) :: w.jobs } := by
  have hseen := h.of_stays hstays
  have hfresh : forall g, (seen.sequence + 1, g) ∉ w.jobs := by
    intro g hmem
    have hle : seen.sequence + 1 ≤ seen.sequence := hseen.numbers _ g hmem
    omega
  refine ⟨?_, ?_, ?_, hseen.phase.cons _, fun r hr => (h.journal r hr).cons _⟩
  · intro number g hmem
    show number ≤ seen.sequence + 1
    rcases List.mem_cons.mp hmem with hnew | hold
    · cases hnew
      exact le_refl _
    · exact Nat.le_succ_of_le (hseen.numbers number g hold)
  · intro number g g' hmem hmem'
    rcases List.mem_cons.mp hmem with hnew | hold
    · cases hnew
      rcases List.mem_cons.mp hmem' with hnew' | hold'
      · cases hnew'
        rfl
      · exact absurd hold' (hfresh g')
    rcases List.mem_cons.mp hmem' with hnew' | hold'
    · cases hnew'
      exact absurd hold (hfresh g)
    · exact h.unique number g g' hold hold'
  intro id job hfound
  rcases Table.lookup_set_cases hfound with hnew | hold
  · rw [hnew]
    exact ⟨f, List.mem_cons_self, rfl, rfl⟩
  · exact (hseen.jobs id job hold).cons _

theorem track (h : Traced base w) (orders : Orders) (f : Foreground) (token : GoString) :
    Traced base (w.track orders f token) := by
  unfold World.track
  simp only
  rcases track_cases w.scheduler stripSecrets orders (f.key f.generations) f.snapshot f.ttl
    .low (some token) with hstays | ⟨seen, worth, hstays, htrack⟩
  · rw [if_pos hstays.sequence]
    exact h.of_stays hstays
  rw [htrack]
  have hnumber : (seen.setJob (f.key f.generations)
      { f.snapshot with rawQuery := stripSecrets f.snapshot.rawQuery } f.ttl worth
      (some token).isSome).sequence = seen.sequence + 1 := rfl
  rw [hnumber, if_neg (by rw [hstays.sequence]; omega)]
  exact h.setJob hstays

theorem matchKey (h : Traced base w) (hstep : w.matchKey read = some v) : Traced base v := by
  unfold World.matchKey at hstep
  split at hstep
  · rename_i p c hphase
    rcases Option.map_eq_some_iff.mp hstep with ⟨y, hy, rfl⟩
    have hfollows := h.phase
    rw [hphase] at hfollows
    unfold Scheduler.matchKey at hy
    rw [hphase] at hy
    simp only at hy
    split at hy
    · rename_i hkey
      cases hy
      refine h.goTo ⟨hfollows, ?_⟩
      cases read with
      | none =>
        -- A stored key is never empty.
        rcases hfollows with ⟨f, _, hstored, _⟩
        rw [hstored] at hkey
        exact absurd hkey.symm (f.key_ne_nil f.generations)
      | some g => exact ⟨g, hkey⟩
    cases hy
    exact h.goOn rfl (fun id job hfound =>
      ⟨job, Table.lookup_of_delete hfound, Renews.refl job⟩) trivial
  · cases hstep

theorem captureKey (h : Traced base w) (hstep : w.captureKey read = some v) : Traced base v := by
  unfold World.captureKey at hstep
  split at hstep
  · rename_i p c hphase
    rcases Option.map_eq_some_iff.mp hstep with ⟨y, hy, rfl⟩
    have hfollows := h.phase
    rw [hphase] at hfollows
    unfold Scheduler.captureKey at hy
    rw [hphase] at hy
    simp only at hy
    split at hy
    · cases hy
      exact ⟨h.numbers, h.unique, h.jobs, trivial, h.journal⟩
    rename_i hkey
    cases hy
    cases read with
    | none => exact absurd rfl hkey
    | some g =>
      exact ⟨h.numbers, h.unique, h.jobs, ⟨hfollows.left, hfollows.right, rfl⟩, h.journal⟩
  · cases hstep

variable {outcome : Fetch}

theorem fetched {p : Pass} {c : Candidate} {storeKey : GoString}
    (h : Traced base w) (hphase : w.scheduler.phase = .fetching p c storeKey)
    (hy : w.scheduler.fetch outcome = some y) : Traced base (w.goOn y) := by
  have hfollows := h.phase
  rw [hphase] at hfollows
  unfold Scheduler.fetch at hy
  rw [hphase] at hy
  cases outcome with
  | error | answer =>
    cases hy
    exact h.goTo trivial
  | body n =>
    cases hy
    exact h.goTo hfollows

theorem fetch (h : Traced base w) (hstep : w.fetch base outcome = some v) :
    Traced base v := by
  unfold World.fetch at hstep
  split at hstep
  · rename_i p c storeKey hphase
    have hfollows := h.phase
    rw [hphase] at hfollows
    split at hstep
    · rcases Option.map_eq_some_iff.mp hstep with ⟨y, hy, rfl⟩
      exact h.fetched hphase hy
    rename_i request hrequest
    rcases Option.map_eq_some_iff.mp hstep with ⟨y, hy, rfl⟩
    have hfetched := h.fetched hphase hy
    refine ⟨hfetched.numbers, hfetched.unique, hfetched.jobs, hfetched.phase, ?_⟩
    intro r hr
    rcases List.mem_cons.mp hr with rfl | hold
    · exact ⟨hfollows.left, hfollows.right.left, hrequest⟩
    · exact h.journal r hold
  · cases hstep

theorem confirmKey (h : Traced base w) (hstep : w.confirmKey read = some v) : Traced base v := by
  unfold World.confirmKey at hstep
  split at hstep
  · rename_i p c storeKey n hphase
    rcases Option.map_eq_some_iff.mp hstep with ⟨y, hy, rfl⟩
    have hfollows := h.phase
    rw [hphase] at hfollows
    unfold Scheduler.confirmKey at hy
    rw [hphase] at hy
    simp only at hy
    split at hy
    · cases hy
      exact h.goTo hfollows
    cases hy
    exact h.goTo trivial
  · cases hstep

theorem publish {applied acknowledged : Bool} (h : Traced base w)
    (hstep : w.publish applied acknowledged = some v) : Traced base v := by
  unfold World.publish at hstep
  split at hstep
  · rename_i p c storeKey n hphase
    rcases Option.map_eq_some_iff.mp hstep with ⟨y, hy, rfl⟩
    have hfollows := h.phase
    rw [hphase] at hfollows
    unfold Scheduler.publish at hy
    rw [hphase] at hy
    cases hy
    cases applied with
    | false => exact ⟨h.numbers, h.unique, h.jobs, trivial, h.journal⟩
    | true =>
      refine ⟨h.numbers, h.unique, h.jobs, trivial, ?_⟩
      intro r hr
      rcases List.mem_cons.mp hr with rfl | hold
      · exact hfollows
      · exact h.journal r hold
  · cases hstep

theorem step {e : Event} (h : Traced base w) (hstep : w.step base e = some v) :
    Traced base v := by
  cases e with
  | track orders f token =>
    cases hstep
    exact h.track orders f token
  | matchKey read => exact h.matchKey hstep
  | captureKey read => exact h.captureKey hstep
  | fetch outcome => exact h.fetch hstep
  | confirmKey read => exact h.confirmKey hstep
  | publish applied acknowledged => exact h.publish hstep
  | plain a =>
    simp only [World.step] at hstep
    split at hstep
    · rename_i hplain
      rcases Option.map_eq_some_iff.mp hstep with ⟨y, hy, rfl⟩
      exact h.moves (advances_plain hplain hy)
    · cases hstep

end Traced

theorem traced_run {base : OriginBase} {now : Instant} {events : List Event} {w : World}
    (hrun : run (World.step base) (World.start now) events = some w) :
    Traced base w :=
  run_keeps (fun _ _ _ => Traced.step) (traced_start base now) hrun

/-!
## Refreshes and their requests
-/

def originOf (base : OriginBase) : Origin :=
  ⟨base.url.scheme, base.url.host, base.url.path⟩

/-- What the request of a job has to be like to be repeated with its query: nothing in its
path is read again, no fragment is cut off its query, and its query was not substituted. -/
structure Repeatable (base : OriginBase) (f : Foreground) : Prop where
  rooted : Rooted base f.request.path
  literal : Literal f.request.path
  fragment : 35 ∉ f.request.rawQuery
  unsubstituted : f.request.rawQuery = f.original.rawQuery
  separates : f.Separates

def jsonHeader : Header :=
  Header.empty.set (str "Accept") (str "application/json") accept_isToken accept_canonical

def browse (path rawQuery : GoString) : Net.Request :=
  Request.bareGet path rawQuery jsonHeader

def browsed (path rawQuery : GoString)
    (hcacheable : requestCacheable (browse path rawQuery) = some minute)
    (hplain : headerVariation jsonHeader = []) : Foreground :=
  ⟨browse path rawQuery, browse path rawQuery, str "user:1", (3, 5), minute, hcacheable, rfl,
    rfl, hplain⟩

theorem jsonHeader_plain : headerVariation jsonHeader = [] := by
  decide +kernel

def itemsRequest : Foreground :=
  browsed (str "/library/sections/1/all") (str "type=1&X-Plex-Token=t") (by decide +kernel)
    jsonHeader_plain

def numberSignRequest : Foreground :=
  browsed (str "/library/sections/1/firstCharacter/#") (str "X-Plex-Token=t")
    (by decide +kernel) jsonHeader_plain

/-- A request is tracked, and half a minute later a pass refreshes it. -/
def refreshOnce (f : Foreground) : List Event :=
  [.track storedOrders f (str "t"), .plain (.tick 30000000000),
    .plain .beginPass, .plain (.resolve none none),
    .plain (.choose storedOrders), .matchKey (some (3, 5)),
    .plain (.activate true), .captureKey (some (4, 5)),
    .fetch (.body 5), .confirmKey (some (4, 5)), .plain .permit, .publish true true]

def Refresh.isSent : Refresh -> Bool
  | .sent c _ => c.job.sequence == 1
  | .stored _ _ _ => false

def Refresh.isStored : Refresh -> Bool
  | .sent _ _ => false
  | .stored c read _ => c.job.sequence == 1 && read == (4, 5)

theorem exists_sent {journal : List Refresh} (h : journal.any Refresh.isSent = true) :
    exists c sent, .sent c sent ∈ journal ∧ c.job.sequence = 1 := by
  rcases List.any_eq_true.mp h with ⟨r, hmem, hsent⟩
  cases r with
  | sent c sent => exact ⟨c, sent, hmem, by simpa [Refresh.isSent] using hsent⟩
  | stored => cases hsent

theorem exists_stored {journal : List Refresh} (h : journal.any Refresh.isStored = true) :
    exists c key, .stored c (4, 5) key ∈ journal ∧ c.job.sequence = 1 := by
  rcases List.any_eq_true.mp h with ⟨r, hmem, hstored⟩
  cases r with
  | sent => cases hstored
  | stored c read key =>
    simp only [Refresh.isStored, Bool.and_eq_true, beq_iff_eq] at hstored
    rw [hstored.right] at hmem
    exact ⟨c, key, hmem, hstored.left⟩

theorem rooted_pmsBase {path : GoString} (h : path.head? = some 47) : Rooted pmsBase path :=
  ⟨by decide +kernel, by decide, by decide, h⟩

/-- Something else was fetched for the job of a request and stored under its key. -/
def Refresh.Misses (f : Foreground) (o : OriginRequest) (journal : List Refresh) : Prop :=
  exists c sent stored read key, .sent c sent ∈ journal ∧ c.job.sequence = 1 ∧
    sent.path ≠ o.path ∧ .stored stored read key ∈ journal ∧
    stored.job.sequence = 1 ∧ key = f.key read

end ReplxEdge.Warming
