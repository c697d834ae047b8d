import ReplxEdge.Serving.Invalidation
import ReplxEdge.Serving.TracedSystem

/-!
# Local hits need an own proof

Whatever the interleaving of requests, revocations and refreshes, a stored body is
only served to a credential that itself received the resource from the origin a
moment ago, and the body was fetched with a token of the scope that its key names.
The part boundary may replace the token of a request together with its path; where
it does, the second half fails.
-/

namespace ReplxEdge.Serving

open Foundation
open Net
open Cache
open Identity
open Gateway
open Trace

/-!
## The property
-/

/-- A grant to the credential within the lease time before an instant, for a completed
fetch, with no revocation since. -/
def RecentProof (cfg : Config) (log : List Record) (f : GoString) (x : Resource)
    (t : Instant) : Prop :=
  Since (fun past r => (exists j, r.note = .granted j f x ∧ Fetched cfg past j f x) ∧
      t - resourceAuthorizationTTL < r.time ∧ r.time ≤ t)
    (fun r => r.note = .revoked f) log

/-- The body came from a fetch with a token that had resolved to the scope of the key. -/
def FetchedInScope (log : List Record) (x : Resource) (body : GoString) : Prop :=
  Once (fun past r => exists source token, r.note = .stored source x body token ∧
      Noted past (.read source token body) ∧
      exists scope, x.HasScope scope ∧ TokenOf past token scope) log

structure ServedProperly (cfg : Config) (log : List Record) (i : Nat) (f : GoString)
    (x : Resource) (body : GoString) : Prop where
  notRejected : NotRejected cfg log i f
  proven : Since (fun past c => c.note = .checked i f x true ∧ RecentProof cfg past f x c.time)
    (fun c => c.note.checksBy i = true) log
  fetched : FetchedInScope log x body

def OwnProof (cfg : Config) (log : List Record) : Prop :=
  Throughout (fun past r => forall i f x body, r.note = .served i f x body ->
    ServedProperly cfg past i f x body) log

def Note.resources : Note -> List Resource
  | .stored _ x _ _ => [x]
  | .granted _ _ x => [x]
  | .checked _ _ x _ => [x]
  | .served _ _ x _ => [x]
  | _ => []

def mentioned (log : List Record) : List Resource :=
  log.flatMap fun r => r.note.resources

/-- The digests of a run tell its resources apart. -/
def Separate (log : List Record) : Prop :=
  forall x, x ∈ mentioned log -> forall y, y ∈ mentioned log -> SameDigest x y -> x = y

section Property

variable {cfg : Config} {log past : List Record} {r : Record} {x y : Resource}

theorem mentioned_of_suffix (hsuffix : (r :: past) <:+ log) (hx : x ∈ r.note.resources) :
    x ∈ mentioned log :=
  List.mem_flatMap.mpr ⟨r, hsuffix.subset List.mem_cons_self, hx⟩

variable {f : GoString} {g : Instant}

theorem GrantedSince.recentProof {t : Instant}
    (hj : Throughout (Justified cfg) log) (h : GrantedSince log f x g) (hpast : g ≤ t)
    (hlive : t < g + resourceAuthorizationTTL) : RecentProof cfg log f x t := by
  refine Since.imp_suffix ?_ h
  intro past r hsuffix hr
  rcases hr with ⟨rfl, j, hgranted⟩
  have hexplained := (hj.of_suffix hsuffix).left
  rw [Justified, hgranted] at hexplained
  exact ⟨⟨j, hgranted, hexplained⟩, Int.sub_right_lt_of_lt_add hlive, hpast⟩

theorem GrantedSince.mentioned (h : GrantedSince log f x g) :
    x ∈ mentioned log := by
  rcases h.exists_suffix with ⟨past, r, hsuffix, _, j, hgranted⟩
  apply mentioned_of_suffix hsuffix
  rw [hgranted]
  exact List.mem_singleton_self x

theorem Published.fetchedInScope {body : GoString} (hj : Throughout (Justified cfg) log)
    (h : Published log x body) : FetchedInScope log x body := by
  rcases h with ⟨source, token, hnoted⟩
  rcases List.mem_map.mp hnoted with ⟨r, hmem, hstored⟩
  rcases hj.exists_suffix hmem with ⟨past, hsuffix, hexplained⟩
  rw [Justified, hstored] at hexplained
  exact once_of_suffix hsuffix ⟨source, token, hstored, hexplained⟩

theorem Published.mentioned {body : GoString} (h : Published log x body) :
    x ∈ mentioned log := by
  rcases h with ⟨source, token, hnoted⟩
  rcases List.mem_map.mp hnoted with ⟨r, hmem, hstored⟩
  apply List.mem_flatMap.mpr
  exact ⟨r, hmem, hstored ▸ List.mem_singleton_self x⟩

theorem mentioned_subset (hsuffix : past <:+ log) (hx : x ∈ mentioned past) :
    x ∈ mentioned log := by
  rcases List.mem_flatMap.mp hx with ⟨r, hmem, hr⟩
  exact List.mem_flatMap.mpr ⟨r, hsuffix.subset hmem, hr⟩

theorem ownProof_of_justified (hj : Throughout (Justified cfg) log)
    (hseparate : Separate log) : OwnProof cfg log := by
  refine Throughout.imp_suffix ?_ hj
  intro past r hsuffix hr i f x body hserved
  have hpast : past <:+ log := (List.suffix_cons r past).trans hsuffix
  have hx : x ∈ mentioned log := by
    apply mentioned_of_suffix hsuffix
    rw [hserved]
    exact List.mem_singleton_self x
  rw [Justified, hserved] at hr
  rcases hr with ⟨hvalid, hchecked, y, hdigest, hbody⟩
  have hsame : forall z, z ∈ mentioned past -> SameDigest z x -> z = x := fun z hz =>
    hseparate z (mentioned_subset hpast hz) x hx
  refine ⟨hvalid, Since.imp_suffix ?_ hchecked, ?_⟩
  · intro before c hbefore hc
    rcases hc with ⟨hcheck, z, g, hz, hgranted, hle, hlt⟩
    have hpaired : before <:+ past := (List.suffix_cons c before).trans hbefore
    have hzx : z = x := hsame z (mentioned_subset hpaired hgranted.mentioned) hz
    subst hzx
    exact ⟨hcheck, hgranted.recentProof (hj.of_suffix (hpaired.trans hpast)) hle hlt⟩
  have hyx : y = x := hsame y hbody.mentioned hdigest
  subst hyx
  exact hbody.fetchedInScope (hj.of_suffix hpast)

end Property

/-!
## Runs
-/

section Runs

variable {cfg : Config} {rewrite : GoString -> GoString} {generations : GenerationTable}
variable {now : Instant} {moves : List Move} {y : System}

/-- Every run in which a body is only stored for a request that carries the token it was
identified by. -/
theorem own_proof
    (hkept : Along (System.step cfg rewrite) KeepsToken (System.start generations now) moves)
    (hrun : run (System.step cfg rewrite) (System.start generations now) moves = some y)
    (hseparate : Separate y.log) : OwnProof cfg y.log :=
  ownProof_of_justified (attested_run hkept hrun).justified hseparate

end Runs

/-!
### Concrete runs
-/

instance (y : System) : (m : Move) -> Decidable (KeepsToken y m)
  | .serve (.advance i _) => decidableForallSome _ (y.serving.threads.lookup i)
  | .serve (.tick _) | .serve (.arrive _ _)
  | .serve (.invalidate _ _ _) | .serve (.execute _ _ _)
  | .serve (.record _) | .serve (.warm _ _)
  | .serve (.warmAdvance _ _) | .call _ _ | .pick _ | .confirm _
  | .leave | .refresh _ | .send | .deliver _ | .permit | .publish
  | .fail _ | .configure _ _ | .pause _ => isTrue trivial

def OneResource (log : List Record) : Prop :=
  forall x, x ∈ mentioned log -> some x = (mentioned log).head?

instance (log : List Record) : Decidable (OneResource log) :=
  inferInstanceAs (Decidable (forall x, x ∈ mentioned log -> _))

theorem OneResource.separate {log : List Record} (h : OneResource log) : Separate log := by
  intro x hx y hy _
  exact Option.some.inj ((h x hx).trans (h y hy).symm)

def hitCount (log : List Record) : Nat :=
  log.countP fun r =>
    match r.note with
    | .served _ _ _ _ => true
    | _ => false

def storedOrders : WarmerOrders where
  contexts := Order.stored _
  jobs := Order.stored _

/-- Sections are stored and tracked, and found again by the next request. -/
def sharedMoves : List Move :=
  (fill 0 sections jodie).map .serve ++ [.call 0 storedOrders,
    .serve (.tick (5 * second).toNat)] ++ (lookUp 1 sections jodie).map .serve

theorem own_proof_shared :
    exists y, run (System.step edge id) (System.start Table.empty 0) sharedMoves = some y ∧
      hitCount y.log = 1 ∧ y.warmer.contexts.entries.length = 1 ∧ OwnProof edge y.log := by
  have hcheck : Along (System.step edge id) KeepsToken (System.start Table.empty 0)
      sharedMoves ∧
      ((run (System.step edge id) (System.start Table.empty 0) sharedMoves).any fun y =>
        decide (hitCount y.log = 1 ∧ y.warmer.contexts.entries.length = 1 ∧
          OneResource y.log)) = true := by
    decide +kernel
  rcases exists_of_any hcheck.right with ⟨y, hrun, hy⟩
  have hshared := of_decide_eq_true hy
  exact ⟨y, hrun, hshared.left, hshared.right.left,
    own_proof hcheck.left hrun hshared.right.right.separate⟩

/-!
### A token that the part boundary brings along

A path below the metadata of an item that ends like a part is cacheable, and the part
boundary applies to it. The key of the selected part may hold a query, which then
replaces the query of the client and the token in it. What is fetched that way is
stored under the key of the client, and its token becomes the context of the client's
scope; the next refresh of the scope uses it.
-/

def Note.servedBody : Note -> Option GoString
  | .served _ _ _ body => some body
  | _ => none

def Note.storedWith (body : GoString) : Note -> Option GoString
  | .stored _ _ fetched token => if fetched = body then some token else none
  | _ => none

def Note.resolvedToken : Note -> Option GoString
  | .resolved _ token _ _ => some token
  | _ => none

def ServesForeignBody (log : List Record) : Prop :=
  let ns := log.map Record.note
  exists body, body ∈ ns.filterMap Note.servedBody ∧
    forall token, token ∈ ns.filterMap (Note.storedWith body) ->
      token ∉ ns.filterMap Note.resolvedToken

instance (log : List Record) : Decidable (ServesForeignBody log) :=
  inferInstanceAs (Decidable (exists body, body ∈ _ ∧ _))

theorem OwnProof.not_foreign {cfg : Config} {log : List Record} (h : OwnProof cfg log) :
    ¬ ServesForeignBody log := by
  intro hforeign
  rcases hforeign with ⟨body, hbody, hnever⟩
  rcases List.mem_filterMap.mp hbody with ⟨n, hn, hserved⟩
  rcases List.mem_map.mp hn with ⟨r, hr, rfl⟩
  rcases h.exists_suffix hr with ⟨past, hsuffix, hproper⟩
  cases hnote : r.note with
  | served i f x served =>
    rw [hnote] at hserved
    cases hserved
    rcases (hproper i f x body hnote).fetched.exists_suffix with
      ⟨before, stored, hstored, source, token, hstoredNote, _, scope, _, j, hresolved⟩
    have hpast : past <:+ log := (List.suffix_cons r past).trans hsuffix
    have hbefore : before <:+ log :=
      (List.suffix_cons stored before).trans (hstored.trans hpast)
    have hstoredMem : stored.note ∈ log.map Record.note :=
      List.mem_map_of_mem (hpast.subset (hstored.subset List.mem_cons_self))
    have hresolvedMem : .resolved j token scope false ∈ log.map Record.note :=
      List.map_subset Record.note hbefore.subset hresolved
    refine hnever token ?_ (List.mem_filterMap.mpr ⟨_, hresolvedMem, rfl⟩)
    exact List.mem_filterMap.mpr ⟨_, hstoredMem, by simp [hstoredNote, Note.storedWith]⟩
  | resolved | answered | read | stored | granted | revoked | checked =>
    rw [hnote] at hserved
    cases hserved

def partRequest : Net.Request :=
  Request.bareGet (str "/library/metadata/1/library/parts/5/file.mkv")
    (str "X-Plex-Token=t") Header.empty

def otherPart : Answer :=
  { answered with
    part := .substitute (str "/library/parts/9/1/file.mkv?X-Plex-Token=o") }

/-- A part in direct mode has no first lookup: seven points up to the origin, seven behind
it. -/
def fillPart (i : Nat) (a : Answer) : List Action :=
  .arrive i partRequest :: passes i 14 a

def partSnapshot : Snapshot where
  method := str "GET"
  path := str "/library/metadata/1/library/parts/5/file.mkv"
  rawQuery := []
  accept := []
  scope := str "user:jodie"
  cls := .metadata

/-- The part is stored and tracked; 140 seconds later it is stored again, now fetched as
another part with the other token. When the first job is due, it is refreshed with the
other token. Then a request waits for one that is on its way, and is served. -/
def foreignMoves : List Move :=
  (fillPart 0 answered).map .serve ++
    [.call 0 storedOrders, .serve (.tick (140 * second).toNat)] ++
    (fillPart 1 otherPart).map .serve ++
    [.call 0 storedOrders, .serve (.tick (10 * second).toNat),
      .pick (snapshotID partSnapshot), .confirm true, .refresh 0, .send,
      .deliver (str "other"), .permit, .publish] ++
    (.arrive 2 partRequest :: passes 2 6 answered ++
      .arrive 3 partRequest :: passes 3 10 { answered with found := some 0 }).map
      .serve

theorem foreign_body_served :
    exists y, run (System.step edge id) (System.start Table.empty 0) foreignMoves = some y ∧
      Separate y.log ∧ ¬ OwnProof edge y.log := by
  have hcheck : ((run (System.step edge id) (System.start Table.empty 0) foreignMoves).any
      fun y => decide (OneResource y.log ∧ ServesForeignBody y.log)) = true := by
    decide +kernel
  rcases exists_of_any hcheck with ⟨y, hrun, hy⟩
  have hforeign := of_decide_eq_true hy
  exact ⟨y, hrun, hforeign.left.separate, fun hproof => hproof.not_foreign hforeign.right⟩

end ReplxEdge.Serving
