import ReplxEdge.Foundation.Quoting
import ReplxEdge.Foundation.Table

/-!
# Collections

The collections of a library and their members are read page by page from the origin and
staged under a new generation. One transaction then makes a complete generation the
published one, and records that cached responses have to be invalidated. Every statement
before and after it takes effect on its own, and the first one that fails, or a crash, ends
the pass.
-/

namespace ReplxEdge.Collections

open Foundation

/-!
## Origin metadata
-/

/-- A text as the JSON decoder and the database give it. -/
structure Text where
  bytes : GoString
  valid : validText bytes = true
deriving DecidableEq

def Text.empty : Text :=
  ⟨[], rfl⟩

/-- `smart` is the raw member, if there is one. -/
structure CollectionJSON where
  ratingKey : Text
  key : Text
  title : Text
  titleSort : Text
  summary : Text
  thumb : Text
  art : Text
  smart : Option Json

structure CollectionMetadata where
  key : Text
  title : Text
  titleSort : Text
  summary : Text
  thumb : Text
  art : Text
  smart : Bool
deriving DecidableEq

structure CollectionMember where
  ratingKey : Text
  itemType : Text
  title : Text
  thumb : Text
  art : Text
deriving DecidableEq

/-- The flag of a smart collection: a boolean, or 0 or 1. -/
def smartFlag : Option Json -> Option Bool
  | none => some false
  | some .null => some false
  | some (.bool value) => some value
  | some (.number n) =>
    match n.int with
    | some 0 => some false
    | some 1 => some true
    | _ => none
  | some _ => none

def collectionDisplayMetadata (c : CollectionJSON) : Option CollectionMetadata :=
  (smartFlag c.smart).map fun smart =>
    { key := c.key
      title := c.title
      titleSort := c.titleSort
      summary := c.summary
      thumb := c.thumb
      art := c.art
      smart := smart }

/-!
## The content hash
-/

def marshalBool (b : Bool) : GoString :=
  if b then str "true" else str "false"

def CollectionMetadata.marshal (m : CollectionMetadata) : GoString :=
  str "\x7b\"key\":" ++ (quoteText m.key.bytes ++
    (str ",\"title\":" ++ (quoteText m.title.bytes ++
      (str ",\"titleSort\":" ++ (quoteText m.titleSort.bytes ++
        (str ",\"summary\":" ++ (quoteText m.summary.bytes ++
          (str ",\"thumb\":" ++ (quoteText m.thumb.bytes ++
            (str ",\"art\":" ++ (quoteText m.art.bytes ++
              (str ",\"smart\":" ++ (marshalBool m.smart ++ str "\x7d")))))))))))))

def CollectionMember.marshal (m : CollectionMember) : GoString :=
  str "\x7b\"ratingKey\":" ++ (quoteText m.ratingKey.bytes ++
    (str ",\"type\":" ++ (quoteText m.itemType.bytes ++
      (str ",\"title\":" ++ (quoteText m.title.bytes ++
        (str ",\"thumb\":" ++ (quoteText m.thumb.bytes ++
          (str ",\"art\":" ++ (quoteText m.art.bytes ++ str "\x7d")))))))))

def contentText (metadata : CollectionMetadata) (members : List CollectionMember) :
    GoString :=
  (metadata.marshal :: members.map CollectionMember.marshal).flatMap fun line => line ++ [10]

def contentHash (metadata : CollectionMetadata) (members : List CollectionMember) :
    GoString :=
  hexEncode (sha256 (contentText metadata members))

/-!
## Tables
-/

def nullText (t : Text) : Option Text :=
  if t.bytes = [] then none else some t

structure Columns where
  collectionKey : Option Text
  title : Text
  sortTitle : Option Text
  summary : Option Text
  thumb : Option Text
  art : Option Text
  smart : Bool
deriving DecidableEq

def CollectionMetadata.columns (m : CollectionMetadata) : Columns where
  collectionKey := nullText m.key
  title := m.title
  sortTitle := nullText m.titleSort
  summary := nullText m.summary
  thumb := nullText m.thumb
  art := nullText m.art
  smart := m.smart

structure MemberRow where
  ratingKey : Text
  itemType : Text
  title : Option Text
  thumb : Option Text
  art : Option Text
deriving DecidableEq

def CollectionMember.row (m : CollectionMember) : MemberRow where
  ratingKey := m.ratingKey
  itemType := m.itemType
  title := nullText m.title
  thumb := nullText m.thumb
  art := nullText m.art

/-- One generation of a collection, with its members under their positions. The hash is
set when the scan is complete. -/
structure CollectionSnapshot where
  metadata : CollectionMetadata
  completed : Bool
  contentHash : Option GoString
  members : List (Nat × MemberRow)

structure CollectionRow where
  serverID : GoString
  columns : Columns
  catalogGeneration : Nat
  publishedGeneration : Option Nat
  snapshots : Table Nat CollectionSnapshot

/-- Collections are unique by their library and rating key; `syncs` has the pending flags
of the libraries. -/
structure Database where
  libraries : List GoString
  collections : Table (GoString × Text) CollectionRow
  syncs : Table GoString Bool
  sequence : Nat

/-!
### What is published
-/

structure Published where
  columns : Columns
  members : List MemberRow
deriving DecidableEq

def CollectionSnapshot.ordered (s : CollectionSnapshot) : List MemberRow :=
  (s.members.insertionSort fun a b => a.1 ≤ b.1).map Prod.snd

def CollectionRow.published (row : CollectionRow) : Option Published :=
  row.publishedGeneration.map fun gen =>
    ⟨row.columns, ((row.snapshots.lookup gen).map CollectionSnapshot.ordered).getD []⟩

def Database.view (db : Database) (library : GoString) (ratingKey : Text) :
    Option Published :=
  (db.collections.lookup (library, ratingKey)).bind CollectionRow.published

/-!
## Statements
-/

namespace Database

def ensureSync (db : Database) (library : GoString) : Option Database :=
  if !db.libraries.contains library then none
  else if (db.syncs.lookup library).isSome then some db
  else some { db with syncs := db.syncs.set library false }

def newCollection (server : GoString) (title : Text) : CollectionRow where
  serverID := server
  columns := ⟨none, title, none, none, none, none, false⟩
  catalogGeneration := 0
  publishedGeneration := none
  snapshots := Table.empty

def insertCollection (db : Database) (server library : GoString) (ratingKey title : Text) :
    Option Database :=
  if (db.collections.lookup (library, ratingKey)).isSome then some db
  else if !db.libraries.contains library then none
  else some { db with
    collections := db.collections.set (library, ratingKey) (newCollection server title) }

def setSnapshot (db : Database) (key : GoString × Text) (row : CollectionRow) (gen : Nat)
    (s : CollectionSnapshot) : Database :=
  { db with
    collections := db.collections.set key { row with snapshots := row.snapshots.set gen s } }

def insertSnapshot (db : Database) (library : GoString) (ratingKey : Text) (gen : Nat)
    (metadata : CollectionMetadata) : Option Database :=
  match db.collections.lookup (library, ratingKey) with
  | none => none
  | some row =>
    if (row.snapshots.lookup gen).isSome then none
    else some (db.setSnapshot (library, ratingKey) row gen ⟨metadata, false, none, []⟩)

def insertMember (db : Database) (library : GoString) (ratingKey : Text) (gen position : Nat)
    (m : CollectionMember) : Option Database :=
  match db.collections.lookup (library, ratingKey) with
  | none => none
  | some row =>
    match row.snapshots.lookup gen with
    | none => none
    | some s =>
      if s.members.any fun entry =>
          entry.1 == position || entry.2.ratingKey == m.ratingKey then none
      else some (db.setSnapshot (library, ratingKey) row gen
        { s with members := s.members ++ [(position, m.row)] })

def completeSnapshot (db : Database) (library : GoString) (ratingKey : Text) (gen : Nat)
    (hash : GoString) : Database :=
  match db.collections.lookup (library, ratingKey) with
  | none => db
  | some row =>
    match row.snapshots.lookup gen with
    | none => db
    | some s =>
      db.setSnapshot (library, ratingKey) row gen
        { s with completed := true, contentHash := some hash }

end Database

namespace CollectionRow

def oldHash (row : CollectionRow) : Option GoString :=
  row.publishedGeneration.bind fun gen =>
    (row.snapshots.lookup gen).bind CollectionSnapshot.contentHash

/-- A complete staged generation is displayed; it becomes the published one when its
content differs. -/
def publish (row : CollectionRow) (gen : Nat) (s : CollectionSnapshot) : CollectionRow :=
  { row with
    columns := s.metadata.columns
    publishedGeneration :=
      if s.contentHash ≠ row.oldHash then some gen else row.publishedGeneration }

def keepPublished (row : CollectionRow) : CollectionRow :=
  { row with snapshots := row.snapshots.keep fun gen _ => row.publishedGeneration == some gen }

def catalogue (row : CollectionRow) (gen : Nat) : CollectionRow :=
  match row.snapshots.lookup gen with
  | none => row
  | some s =>
    if s.completed then { row.publish gen s with catalogGeneration := gen } else row

def differs (row : CollectionRow) (gen : Nat) : Bool :=
  match row.snapshots.lookup gen with
  | none => true
  | some s => s.contentHash != row.oldHash

end CollectionRow

namespace Database

def markPending (db : Database) (library : GoString) (changed : Bool) : Table GoString Bool :=
  db.syncs.modify fun other pending => if other = library then pending || changed else pending

def catalogueChanged (db : Database) (library : GoString) (gen : Nat) : Bool :=
  db.collections.entries.any fun entry => entry.1.1 == library && entry.2.differs gen

/-- The transaction that publishes a library: rows of the new generation are displayed, the
others go, and only published generations are kept. -/
def publishCollections (db : Database) (library : GoString) (gen : Nat) : Database :=
  let updated := db.collections.modify fun key row =>
    if key.1 = library then row.catalogue gen else row
  let kept := updated.keep fun key row => key.1 != library || row.catalogGeneration == gen
  { db with
    collections := kept.modify fun key row =>
      if key.1 = library then row.keepPublished else row
    syncs := db.markPending library (db.catalogueChanged library gen) }

def publishOneCollection (db : Database) (library : GoString) (ratingKey : Text) (gen : Nat) :
    Option Database :=
  match db.collections.lookup (library, ratingKey) with
  | none => none
  | some row =>
    match row.snapshots.lookup gen with
    | none => none
    | some s =>
      if !s.completed then none
      else
        some { db with
          collections :=
            db.collections.set (library, ratingKey) (row.publish gen s).keepPublished
          syncs := db.markPending library (s.contentHash != row.oldHash) }

def clearPending (db : Database) (library : GoString) : Database :=
  { db with
    syncs := db.syncs.modify fun other pending =>
      if other = library then false else pending }

/-- Old generations that are not published go; `old` says which ones are old. -/
def pruneSnapshots (db : Database) (old : GoString × Text -> Nat -> Bool) : Database :=
  { db with
    collections := db.collections.modify fun key row =>
      { row with
        snapshots := row.snapshots.keep fun gen _ =>
          !old key gen || row.publishedGeneration == some gen } }

def pending (db : Database) (library : GoString) : Bool :=
  (db.syncs.lookup library).getD false

end Database

inductive Statement where
  | ensureSync (library : GoString)
  | nextGeneration
  | insertCollection (server library : GoString) (ratingKey title : Text)
  | insertSnapshot (library : GoString) (ratingKey : Text) (gen : Nat)
      (metadata : CollectionMetadata)
  | insertMember (library : GoString) (ratingKey : Text) (gen position : Nat)
      (m : CollectionMember)
  | completeSnapshot (library : GoString) (ratingKey : Text) (gen : Nat) (hash : GoString)
  | publishCollections (library : GoString) (gen : Nat)
  | publishOneCollection (library : GoString) (ratingKey : Text) (gen : Nat)
  | invalidate (library : GoString) (succeeds : Bool)
  | clearPending (library : GoString)
  | pruneSnapshots (old : GoString × Text -> Nat -> Bool)

/-- What the published collections depend on: commits that publish, and calls of the
invalidator that succeed. -/
inductive CollectionDeed where
  | committed (before after : Database)
  | invalidated

/-- The database, the library ids that have been given out and the deeds, the latest
first. -/
structure World where
  db : Database
  known : List GoString
  journal : List CollectionDeed

namespace World

def store (w : World) (db : Database) : World :=
  { w with db := db }

def commit (w : World) (db : Database) : World :=
  { w with db := db, journal := .committed w.db db :: w.journal }

def invalidate (w : World) (library : GoString) (succeeds : Bool) : Option World :=
  if !w.db.pending library then some w
  else if succeeds then some { w with journal := .invalidated :: w.journal }
  else none

/-- A statement that takes effect; `none` when it fails. -/
def apply (w : World) : Statement -> Option World
  | .ensureSync library => (w.db.ensureSync library).map w.store
  | .nextGeneration => some (w.store { w.db with sequence := w.db.sequence + 1 })
  | .insertCollection server library ratingKey title =>
    (w.db.insertCollection server library ratingKey title).map w.store
  | .insertSnapshot library ratingKey gen metadata =>
    (w.db.insertSnapshot library ratingKey gen metadata).map w.store
  | .insertMember library ratingKey gen position m =>
    (w.db.insertMember library ratingKey gen position m).map w.store
  | .completeSnapshot library ratingKey gen hash =>
    some (w.store (w.db.completeSnapshot library ratingKey gen hash))
  | .publishCollections library gen =>
    some (w.commit (w.db.publishCollections library gen))
  | .publishOneCollection library ratingKey gen =>
    (w.db.publishOneCollection library ratingKey gen).map w.commit
  | .invalidate library succeeds => w.invalidate library succeeds
  | .clearPending library => some (w.store (w.db.clearPending library))
  | .pruneSnapshots old => some (w.store (w.db.pruneSnapshots old))

end World

/-!
## Scripts

A pass as the statements that it executes one after the other. Without a result the pass
ends after them.
-/

structure Script (alpha : Type) where
  statements : List Statement
  result : Option alpha

namespace Script

variable {alpha beta : Type}

def stop : Script alpha :=
  ⟨[], none⟩

def emit (s : Statement) : Script Unit :=
  ⟨[s], some ()⟩

def andThen (x : Script alpha) (next : alpha -> Script beta) : Script beta :=
  match x.result with
  | none => ⟨x.statements, none⟩
  | some a => ⟨x.statements ++ (next a).statements, (next a).result⟩

instance : Monad Script where
  pure a := ⟨[], some a⟩
  bind := andThen

end Script

/-!
## Pages
-/

structure Page (alpha : Type) where
  size : Option Int
  offset : Option Int
  totalSize : Option Int
  items : List alpha

/-- Whether a page is the last one, from the total that is known by then; an empty first
page must state that the total is 0. -/
def lastPage (start requested count : Int) (total : Option Int) (expectedTotal : Int) :
    Option (Bool × Int) :=
  if start = 0 ∧ count = 0 ∧ total ≠ some 0 then none
  else if expectedTotal ≥ 0 then
    if start + count = expectedTotal then some (true, expectedTotal)
    else if count = 0 then none
    else some (false, expectedTotal)
  else some (decide (count < requested), expectedTotal)

/-- `expectedTotal` is -1 until a page states the total. -/
def collectionPageComplete (start requested count : Int) (size offset total : Option Int)
    (expectedTotal : Int) : Option (Bool × Int) :=
  if count > requested ∨ size.any (· != count) ∨ offset.any (· != start) then none
  else
    match total with
    | some t =>
      if t < 0 ∨ (expectedTotal ≥ 0 ∧ expectedTotal ≠ t) ∨ count > t - start then none
      else lastPage start requested count total t
    | none =>
      if expectedTotal ≥ 0 then none
      else lastPage start requested count total expectedTotal

def pageBound : Nat := 100000

/-!
## Passes
-/

structure Scanned where
  ratingKey : Text
  metadata : CollectionMetadata
  members : List CollectionMember

/-- The members of one page; the keys that have been seen are returned. -/
def stageMembers (library : GoString) (ratingKey : Text) (gen : Nat) :
    Nat -> List Text -> List CollectionMember -> Script (List Text)
  | _, seen, [] => pure seen
  | position, seen, m :: rest =>
    if m.ratingKey.bytes = [] ∨ m.ratingKey ∈ seen then Script.stop
    else do
      Script.emit (.insertMember library ratingKey gen position m)
      stageMembers library ratingKey gen (position + 1) (m.ratingKey :: seen) rest

/-- The answers of the origin come in their order; one that is missing or cannot be read
ends the pass. -/
def scanMembers (pageSize : Nat) (library : GoString) (ratingKey : Text) (gen : Nat) :
    Nat -> Nat -> Int -> List Text -> List (Option (Page CollectionMember)) ->
      Script (List CollectionMember)
  | _, _, _, _, [] => Script.stop
  | _, _, _, _, none :: _ => Script.stop
  | pages, start, expectedTotal, seen, some p :: rest =>
    if pages ≥ pageBound then Script.stop
    else
      match collectionPageComplete start pageSize p.items.length p.size p.offset p.totalSize
          expectedTotal with
      | none => Script.stop
      | some (done, total) => do
          let nowSeen ← stageMembers library ratingKey gen start seen p.items
          if done then pure p.items
          else do
            let more ← scanMembers pageSize library ratingKey gen (pages + 1)
              (start + p.items.length) total nowSeen rest
            pure (p.items ++ more)

def stageCollection (pageSize : Nat) (server library : GoString) (gen : Nat)
    (children : List (Option (Page CollectionMember))) (c : CollectionJSON) :
    Script Scanned :=
  match collectionDisplayMetadata c with
  | none => Script.stop
  | some metadata => do
      Script.emit (.insertCollection server library c.ratingKey c.title)
      Script.emit (.insertSnapshot library c.ratingKey gen metadata)
      let members ← scanMembers pageSize library c.ratingKey gen 0 0 (-1) [] children
      Script.emit (.completeSnapshot library c.ratingKey gen (contentHash metadata members))
      pure ⟨c.ratingKey, metadata, members⟩

/-- The answers of the origin: the pages of a catalog, and the pages of the members of each
collection. -/
structure Origin where
  catalog : List (Option (Page CollectionJSON))
  children : Text -> List (Option (Page CollectionMember))

def stageCollections (pageSize : Nat) (server library : GoString) (gen : Nat)
    (origin : Origin) : List Scanned -> List CollectionJSON -> Script (List Scanned)
  | scanned, [] => pure scanned
  | scanned, c :: rest =>
    if c.ratingKey.bytes = [] ∨ c.ratingKey ∈ scanned.map Scanned.ratingKey then Script.stop
    else do
      let x ← stageCollection pageSize server library gen (origin.children c.ratingKey) c
      stageCollections pageSize server library gen origin (scanned ++ [x]) rest

def scanCatalog (pageSize : Nat) (server library : GoString) (gen : Nat) (origin : Origin) :
    Nat -> Nat -> Int -> List Scanned -> List (Option (Page CollectionJSON)) ->
      Script (List Scanned)
  | _, _, _, _, [] => Script.stop
  | _, _, _, _, none :: _ => Script.stop
  | pages, start, expectedTotal, scanned, some p :: rest =>
    if pages ≥ pageBound then Script.stop
    else
      match collectionPageComplete start pageSize p.items.length p.size p.offset p.totalSize
          expectedTotal with
      | none => Script.stop
      | some (done, total) => do
          let more ← stageCollections pageSize server library gen origin scanned p.items
          if done then pure more
          else
            scanCatalog pageSize server library gen origin (pages + 1)
              (start + p.items.length) total more rest

/-- `invalidator` is absent when none is wired, and says otherwise whether its call
succeeds. -/
def flushCollectionInvalidation (invalidator : Option Bool) (library : GoString) :
    Script Unit :=
  match invalidator with
  | none => pure ()
  | some succeeds => do
      Script.emit (.invalidate library succeeds)
      Script.emit (.clearPending library)

def syncLibraryCollections (pageSize : Nat) (invalidator : Option Bool)
    (server library : GoString) (origin : Origin) (old : GoString × Text -> Nat -> Bool)
    (db : Database) : Script (List Scanned) := do
  let gen := db.sequence + 1
  Script.emit (.ensureSync library)
  Script.emit .nextGeneration
  let scanned ← scanCatalog pageSize server library gen origin 0 0 (-1) [] origin.catalog
  Script.emit (.publishCollections library gen)
  flushCollectionInvalidation invalidator library
  Script.emit (.pruneSnapshots old)
  pure scanned

def Columns.json (c : Columns) (ratingKey : Text) : CollectionJSON where
  ratingKey := ratingKey
  key := c.collectionKey.getD Text.empty
  title := c.title
  titleSort := c.sortTitle.getD Text.empty
  summary := c.summary.getD Text.empty
  thumb := c.thumb.getD Text.empty
  art := c.art.getD Text.empty
  smart := some (.bool c.smart)

/-- One published collection of the server; `library` is where its row was found. -/
def syncCollectionOnce (pageSize : Nat) (invalidator : Option Bool)
    (server library : GoString) (ratingKey : Text)
    (children : List (Option (Page CollectionMember))) (db : Database) :
    Script (List Scanned) :=
  if ratingKey.bytes = [] then Script.stop
  else
    match db.collections.lookup (library, ratingKey) with
    | none => Script.stop
    | some row =>
      if row.serverID ≠ server ∨ row.publishedGeneration = none then Script.stop
      else do
        let gen := db.sequence + 1
        Script.emit .nextGeneration
        let x ← stageCollection pageSize server library gen children
          (row.columns.json ratingKey)
        Script.emit (.publishOneCollection library ratingKey gen)
        flushCollectionInvalidation invalidator library
        pure [x]

/-!
## The system
-/

inductive Call where
  | library (server library : GoString) (origin : Origin) (invalidator : Option Bool)
      (old : GoString × Text -> Nat -> Bool)
  | collection (server library : GoString) (ratingKey : Text)
      (children : List (Option (Page CollectionMember))) (invalidator : Option Bool)

def Call.script (pageSize : Nat) (db : Database) : Call -> Script (List Scanned)
  | .library server name origin invalidator old =>
    syncLibraryCollections pageSize invalidator server name origin old db
  | .collection server name ratingKey children invalidator =>
    syncCollectionOnce pageSize invalidator server name ratingKey children db

/-- A pass executes some of its statements before it ends, fails or crashes. A pass starts
only when no other one is in flight. Libraries come under new ids and go with all that
belongs to them. -/
inductive SyncEvent where
  | pass (call : Call) (count : Nat)
  | createLibrary (library : GoString)
  | deleteLibrary (library : GoString)

def Database.deleteLibrary (db : Database) (library : GoString) : Database where
  libraries := db.libraries.filter fun other => other != library
  collections := db.collections.keep fun key _ => key.1 != library
  syncs := db.syncs.delete library
  sequence := db.sequence

def World.execute (pageSize : Nat) (w : World) (call : Call) (count : Nat) : Option World :=
  run World.apply w ((call.script pageSize w.db).statements.take count)

def World.step (pageSize : Nat) (w : World) : SyncEvent -> Option World
  | .pass call count => w.execute pageSize call count
  | .createLibrary library =>
    if library ∈ w.known then none
    else some { w with
      db := { w.db with libraries := library :: w.db.libraries }
      known := library :: w.known }
  | .deleteLibrary library => some (w.store (w.db.deleteLibrary library))

def World.initial : World where
  db := ⟨[], Table.empty, Table.empty, 0⟩
  known := []
  journal := []

end ReplxEdge.Collections
