import ReplxEdge.Playback.Sessions
import ReplxEdge.Sync.Index

/-!
# Two stores of sessions

The in-process store overwrites a session, the production store adds rows and reads the
newest open one. Both are the map from an id to the session opened last under it.
-/

namespace ReplxEdge.Playback

open Foundation
open MediaPolicy
open Sync (nullIfEmpty)

/-!
## Columns
-/

/-- A row of `playback_sessions`. Ids of other tables' rows may be null. -/
structure SessionColumns where
  plexSessionIdentifier : GoString
  ratingKey : GoString
  identityID : Option GoString
  clientInstanceID : Option GoString
  selectedMediaVariantID : Option GoString
  selectedMediaPartID : Option GoString
  selectedMediaIndex : Int
  selectedPartPlexID : GoString
  selectedPartKey : GoString
  playbackMode : PlaybackMode
  routingMode : GoString
  effectivePolicy : Policy
  startedAt : Instant
  ended : Bool

variable (uuid : GoString -> GoString)

/-- The row that is inserted. `uuid` is the text that the database gives back for an id. -/
def Session.columns (s : Session) (now : Instant) : SessionColumns where
  plexSessionIdentifier := s.plexSessionID
  ratingKey := s.ratingKey
  identityID := (nullIfEmpty s.identityID).map uuid
  clientInstanceID := (nullIfEmpty s.clientUUID).map uuid
  selectedMediaVariantID := (nullIfEmpty s.selectedVariantID).map uuid
  selectedMediaPartID := (nullIfEmpty s.selectedPartID).map uuid
  selectedMediaIndex := s.selectedMediaIndex
  selectedPartPlexID := s.selectedPartPlexID
  selectedPartKey := s.selectedPartKey
  playbackMode := s.playbackMode
  routingMode := s.routingMode
  effectivePolicy := s.effectivePolicy
  startedAt := now
  ended := false

def SessionColumns.row (c : SessionColumns) : SessionRow where
  session := {
    plexSessionID := c.plexSessionIdentifier
    ratingKey := c.ratingKey
    identityID := c.identityID.getD []
    clientUUID := c.clientInstanceID.getD []
    selectedMediaIndex := c.selectedMediaIndex
    selectedPartPlexID := c.selectedPartPlexID
    selectedPartKey := c.selectedPartKey
    selectedVariantID := c.selectedMediaVariantID.getD []
    selectedPartID := c.selectedMediaPartID.getD []
    playbackMode := c.playbackMode
    routingMode := c.routingMode
    effectivePolicy := c.effectivePolicy }
  startedAt := c.startedAt
  ended := c.ended

def Session.Canonical (s : Session) : Prop :=
  forall id, id ∈ [s.identityID, s.clientUUID, s.selectedVariantID, s.selectedPartID] ->
    id ≠ [] -> uuid id = id

def SessionColumns.close (id : GoString) (c : SessionColumns) : SessionColumns :=
  if c.row.isOpen id then { c with ended := true } else c

/-!
## Calls
-/

inductive StoreCall where
  | create (now : Instant) (session : Session)
  | findActive (id : GoString)
  | endSession (id : GoString)

def StoreCall.id : StoreCall -> GoString
  | .create _ session => session.plexSessionID
  | .findActive id => id
  | .endSession id => id

def StoreCall.start : StoreCall -> Option Instant
  | .create now _ => some now
  | _ => none

variable (order : Order SessionRow)

def pgCall (rows : List SessionColumns) : StoreCall -> List SessionColumns × Option Session
  | .create now session => (rows ++ [session.columns uuid now], some session)
  | .findActive id => (rows, (pgStore order).findActive (rows.map SessionColumns.row) id)
  | .endSession id => (if id = [] then rows else rows.map (SessionColumns.close id), none)

def memoryCall (sessions : Table GoString Session) :
    StoreCall -> Table GoString Session × Option Session
  | .create now session => (memoryStore.create sessions now session,
      some { session with plexSessionID := memoryKey session })
  | .findActive id => (sessions, memoryStore.findActive sessions id)
  | .endSession id => (memoryStore.endSession sessions id, none)

def latestCall (latest : GoString -> Option Session) :
    StoreCall -> (GoString -> Option Session) × Option Session
  | .create _ session => (Function.update latest session.plexSessionID (some session), some session)
  | .findActive id => (latest, latest id)
  | .endSession id => (Function.update latest id none, none)

def answers {State : Type} (call : State -> StoreCall -> State × Option Session) :
    State -> List StoreCall -> List (Option Session)
  | _, [] => []
  | st, c :: rest => (call st c).2 :: answers call (call st c).1 rest

theorem answers_latest {State : Type} {call : State -> StoreCall -> State × Option Session}
    (inv : State -> (GoString -> Option Session) -> List StoreCall -> Prop)
    (hstep : forall st latest c rest, inv st latest (c :: rest) ->
      (call st c).2 = (latestCall latest c).2 ∧ inv (call st c).1 (latestCall latest c).1 rest)
    {calls : List StoreCall} {st : State} {latest : GoString -> Option Session}
    (h : inv st latest calls) : answers call st calls = answers latestCall latest calls := by
  induction calls generalizing st latest with
  | nil => rfl
  | cons c rest ih =>
    rcases hstep st latest c rest h with ⟨hanswer, hrest⟩
    unfold answers
    rw [hanswer, ih hrest]

/-!
## Reads of the production store
-/

variable {uuid order} {rows : List SessionRow} {now : Instant} {session : Session} {id : GoString}

theorem getD_uuid {s : GoString} (h : s ≠ [] -> uuid s = s) :
    ((nullIfEmpty s).map uuid).getD [] = s := by
  unfold nullIfEmpty
  split
  · simp_all
  rename_i hs
  exact h hs

theorem row_columns (now : Instant) (h : session.Canonical uuid) :
    (session.columns uuid now).row = ⟨session, now, false⟩ := by
  unfold Session.Canonical at h
  simp only [List.forall_mem_cons] at h
  rcases h with ⟨hidentity, hclient, hvariant, hpart, _⟩
  unfold SessionColumns.row Session.columns
  simp only [getD_uuid hidentity, getD_uuid hclient, getD_uuid hvariant, getD_uuid hpart]

theorem row_close (c : SessionColumns) : (c.close id).row = closeRow id c.row := by
  unfold SessionColumns.close closeRow
  split
  · rfl
  · rfl

theorem newest_of_latest (row : SessionRow) (hmem : row ∈ rows)
    (h : forall other, other ∈ rows -> other = row ∨ other.startedAt < row.startedAt) :
    newest rows = some row := by
  have hpick : exists found, found ∈ rows ∧ newest rows = some found ∧
      forall other, other ∈ rows -> other.startedAt ≤ found.startedAt := by
    refine foldl_pick (fun row => row) (fun a b => b.startedAt ≤ a.startedAt) (fun _ => le_rfl)
      (fun _ _ _ hab hbc => hbc.trans hab) ?_ ?_ (List.ne_nil_of_mem hmem)
    · exact fun _ => rfl
    intro best next
    simp only
    split
    · rename_i hlt
      exact ⟨next, rfl, Or.inr rfl, hlt.le, le_rfl⟩
    rename_i hle
    exact ⟨best, rfl, Or.inl rfl, le_rfl, not_lt.mp hle⟩
  rcases hpick with ⟨found, hfound, hnewest, hall⟩
  rcases h found hfound with rfl | hlt
  · exact hnewest
  · exact absurd (hall row hmem) (not_le.mpr hlt)

theorem find_created (hid : session.plexSessionID ≠ [])
    (h : forall row, row ∈ rows -> row.startedAt < now) :
    (pgStore order).findActive (rows ++ [⟨session, now, false⟩]) session.plexSessionID =
      some session := by
  unfold pgStore
  simp only [if_neg hid]
  rw [newest_of_latest ⟨session, now, false⟩]
  · rfl
  · rw [(order.perm _).mem_iff]
    simp [SessionRow.isOpen]
  intro other hother
  rw [(order.perm _).mem_iff, List.mem_filter, List.mem_append, List.mem_singleton] at hother
  rcases hother.left with hrow | hnew
  · exact Or.inr (h other hrow)
  · exact Or.inl hnew

theorem find_ended : (pgStore order).findActive (rows.map (closeRow id)) id = none := by
  have hclosed : (rows.map (closeRow id)).filter (fun row => row.isOpen id) = [] := by
    rw [List.filter_eq_nil_iff]
    intro row hrow
    rcases List.mem_map.mp hrow with ⟨old, _, rfl⟩
    unfold closeRow
    split
    · simp [SessionRow.isOpen]
    · assumption
  unfold pgStore
  simp only [hclosed, List.perm_nil.mp (order.perm [])]
  split
  · rfl
  · rfl

/-!
## Equal answers
-/

variable (uuid order) in
/-- The production store holds what the calls so far left open, and the rest of the calls are
such as it is used with. -/
structure PGLatest (columns : List SessionColumns) (latest : GoString -> Option Session)
    (rest : List StoreCall) : Prop where
  found : forall id, id ≠ [] ->
    (pgStore order).findActive (columns.map SessionColumns.row) id = latest id
  earlier : forall c, c ∈ columns -> forall t, t ∈ rest.filterMap StoreCall.start ->
    c.startedAt < t
  named : forall c, c ∈ rest -> c.id ≠ []
  increasing : (rest.filterMap StoreCall.start).Pairwise (· < ·)
  canonical : forall now session, .create now session ∈ rest -> session.Canonical uuid

theorem pgCall_latest {columns : List SessionColumns} {latest : GoString -> Option Session}
    {c : StoreCall} {rest : List StoreCall} (h : PGLatest uuid order columns latest (c :: rest)) :
    (pgCall uuid order columns c).2 = (latestCall latest c).2 ∧
      PGLatest uuid order (pgCall uuid order columns c).1 (latestCall latest c).1 rest := by
  have hid := h.named c List.mem_cons_self
  have hnamed := fun d hd => h.named d (List.mem_cons_of_mem c hd)
  have hcanonical := fun now session hd => h.canonical now session (List.mem_cons_of_mem c hd)
  cases c with
  | create now session =>
    have hrow := row_columns now (h.canonical now session List.mem_cons_self)
    have hearlier : forall c, c ∈ columns -> c.startedAt < now := by
      intro c hc
      exact h.earlier c hc now List.mem_cons_self
    rcases List.pairwise_cons.mp h.increasing with ⟨hlater, hincreasing⟩
    refine ⟨rfl, ?_, ?_, hnamed, hincreasing, hcanonical⟩
    · intro id hne
      unfold pgCall latestCall
      simp only [List.map_append, List.map_singleton, hrow]
      by_cases hsame : session.plexSessionID = id
      · subst hsame
        rw [Function.update_self, find_created hne]
        intro row hr
        rcases List.mem_map.mp hr with ⟨c, hc, rfl⟩
        exact hearlier c hc
      rw [Function.update_of_ne (Ne.symm hsame), ← h.found id hne]
      exact (pgStore order).find_create _ now session id hsame
    intro c hc t ht
    rcases List.mem_append.mp hc with hold | hnew
    · exact h.earlier c hold t (List.mem_cons_of_mem now ht)
    rw [List.mem_singleton.mp hnew]
    exact hlater t ht
  | findActive id => exact ⟨h.found id hid, h.found, h.earlier, hnamed, h.increasing, hcanonical⟩
  | endSession ended =>
    refine ⟨rfl, ?_, ?_, hnamed, h.increasing, hcanonical⟩
    · intro id hne
      have hmap : (pgCall uuid order columns (.endSession ended)).1.map SessionColumns.row =
          (columns.map SessionColumns.row).map (closeRow ended) := by
        unfold pgCall
        simp only [if_neg (show ended ≠ [] from hid), List.map_map]
        exact List.map_congr_left fun c _ => row_close c
      rw [hmap]
      change _ = Function.update latest ended none id
      by_cases hsame : ended = id
      · rw [hsame, Function.update_self, find_ended]
      rw [Function.update_of_ne (Ne.symm hsame), ← h.found id hne]
      unfold pgStore
      simp only [filter_closeRow hsame]
    intro c hc t ht
    unfold pgCall at hc
    simp only [if_neg (show ended ≠ [] from hid)] at hc
    rcases List.mem_map.mp hc with ⟨old, hold, rfl⟩
    have hstart : (old.close ended).startedAt = old.startedAt := by
      unfold SessionColumns.close
      split
      · rfl
      · rfl
    rw [hstart]
    exact h.earlier old hold t ht

theorem memoryCall_latest {sessions : Table GoString Session}
    {latest : GoString -> Option Session} {c : StoreCall} (hid : c.id ≠ [])
    (h : sessions.lookup = latest) :
    (memoryCall sessions c).2 = (latestCall latest c).2 ∧
      (memoryCall sessions c).1.lookup = (latestCall latest c).1 := by
  subst h
  cases c with
  | create now session =>
    have hkey : memoryKey session = session.plexSessionID := if_neg hid
    unfold memoryCall latestCall memoryStore
    simp only [hkey, true_and]
    funext id
    rw [Table.lookup_set, Function.update_apply]
  | findActive id => exact ⟨rfl, rfl⟩
  | endSession ended =>
    refine ⟨rfl, ?_⟩
    funext id
    change (sessions.delete ended).lookup id = Function.update sessions.lookup ended none id
    by_cases hsame : id = ended
    · rw [hsame, Table.lookup_delete_self, Function.update_self]
    · rw [sessions.lookup_delete_ne hsame, Function.update_of_ne hsame]

/-- Both stores answer every sequence of calls with the session created last under the id
that is asked for and not ended since, all its fields as they were given. -/
theorem stores_interchangeable (uuid : GoString -> GoString) (order : Order SessionRow)
    (calls : List StoreCall) (hnamed : forall c, c ∈ calls -> c.id ≠ [])
    (hincreasing : (calls.filterMap StoreCall.start).Pairwise (· < ·))
    (hcanonical : forall now session, .create now session ∈ calls -> session.Canonical uuid) :
    answers (pgCall uuid order) [] calls = answers latestCall (fun _ => none) calls ∧
      answers memoryCall Table.empty calls = answers latestCall (fun _ => none) calls := by
  constructor
  · refine answers_latest (PGLatest uuid order) (fun _ _ _ _ => pgCall_latest) ?_
    refine ⟨?_, (fun _ hc => nomatch hc), hnamed, hincreasing, hcanonical⟩
    intro id hid
    unfold pgStore
    simp [hid, List.perm_nil.mp (order.perm []), newest]
  refine answers_latest
    (fun sessions latest rest => sessions.lookup = latest ∧ forall c, c ∈ rest -> c.id ≠ [])
    ?_ ⟨rfl, hnamed⟩
  intro sessions latest c rest ⟨hlookup, hrest⟩
  rcases memoryCall_latest (hrest c List.mem_cons_self) hlookup with ⟨hanswer, hnext⟩
  exact ⟨hanswer, hnext, fun d hd => hrest d (List.mem_cons_of_mem c hd)⟩

def filmCalls : List StoreCall :=
  [.create 0 filmSession, .create 1 filmSession, .findActive (str "x"), .endSession (str "x"),
    .findActive (str "x")]

theorem stores_interchangeable_film :
    answers (pgCall (fun id => id) (Order.stored _)) [] filmCalls =
      answers memoryCall Table.empty filmCalls := by
  have h := stores_interchangeable (fun id => id) (Order.stored _) filmCalls
    (by simp [filmCalls, StoreCall.id]; decide) (by decide) (fun _ _ _ _ _ _ => rfl)
  exact h.left.trans h.right.symm

end ReplxEdge.Playback
