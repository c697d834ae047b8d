import ReplxEdge.Foundation.Digest
import ReplxEdge.Foundation.Unique
import ReplxEdge.MediaPolicy.Evaluate

/-!
# The owner index

An item of the origin is written statement by statement: the item, then each
variant and its parts under their positions, and what the origin no longer has is
deleted behind them. Every statement takes effect on its own, and the first one
that fails ends the write.
-/

namespace ReplxEdge.Sync

open Foundation
open MediaPolicy (DynamicRange)

/-!
## Origin metadata
-/

structure StreamJSON where
  codec : GoString
  profile : GoString
  displayTitle : GoString
  extendedDisplayTitle : GoString
deriving DecidableEq

structure PartJSON where
  id : Option Int
  key : GoString
  streams : List StreamJSON

/-- One entry of a Media array, with the members that either reader of it looks at. -/
structure MediaJSON where
  id : Option Int
  videoCodec : GoString
  videoProfile : GoString
  width : Option Int
  height : Option Int
  bitrate : Option Int
  dynamicRange : GoString
  hdrFormat : GoString
  hdr : GoString
  displayTitle : GoString
  extendedDisplayTitle : GoString
  audioChannels : Option Int
  parts : List PartJSON

structure ItemJSON where
  ratingKey : GoString
  guids : List GoString
  media : List MediaJSON

/-- Map the signals of the origin to the canonical vocabulary. -/
def normalizeDynamicRange (dynamicRange hdrFormat videoCodec videoProfile : GoString) :
    DynamicRange :=
  let text := toLower (join 32 [dynamicRange, hdrFormat, videoCodec, videoProfile])
  let has := fun (needles : List String) => needles.any fun n => contains text (str n)
  if has ["dovi", "dvhe", "dvav"] || (has ["dolby"] && has ["vision"]) then
    .dolbyVision
  else if has ["hdr10+", "hdr10 plus", "hdr10plus"] then .hdr10Plus
  else if has ["hdr10"] || (has ["pq"] && !has ["hlg"]) then .hdr10
  else if has ["hlg"] then .hlg
  else if has ["hdr"] then .hdrOther
  else if has ["sdr"] then .sdr
  else .unknown

/-!
## Tables
-/

def nullIfEmpty (s : GoString) : Option GoString :=
  if s = [] then none else some s

structure ItemRow where
  libraryID : GoString
  sweepGen : Option Int
deriving DecidableEq

structure VariantRow where
  plexMediaID : Option GoString
  videoCodec : Option GoString
  width : Option Int
  height : Option Int
  bitrateKbps : Option Int
  dynamicRange : DynamicRange
  audioChannels : Option Int
deriving DecidableEq

structure PartRow where
  plexPartID : GoString
  plexKey : Option GoString
deriving DecidableEq

abbrev ItemKey := GoString × GoString

abbrev VariantKey := ItemKey × Int

abbrev PartKey := VariantKey × Int

structure Index where
  items : Table ItemKey ItemRow
  variants : Table VariantKey VariantRow
  parts : UniqueTable PartKey PartRow GoString PartRow.plexPartID

def Index.empty : Index :=
  ⟨Table.empty, Table.empty, UniqueTable.empty⟩

/-!
## Statements
-/

inductive Statement where
  | upsertItem (item : ItemKey) (libraryID : GoString) (gen : Option Int)
  | insertGuid (item : ItemKey) (guid : GoString)
  | pruneGuids (item : ItemKey)
  | upsertVariant (item : ItemKey) (mediaIndex : Int) (row : VariantRow)
  | upsertPart (variant : VariantKey) (partIndex : Int) (row : PartRow)
  | clearStreams (part : PartKey)
  | insertStream (part : PartKey) (stream : StreamJSON)
  | pruneParts (variant : VariantKey) (seen : List Int)
  | pruneVariants (item : ItemKey) (seen : List Int)

/-- Insert or update an item; a pass without a generation leaves the stamp. -/
def Index.putItem (i : Index) (item : ItemKey) (libraryID : GoString) (gen : Option Int) :
    Index :=
  { i with
    items := i.items.set item
      ⟨libraryID, gen.or ((i.items.lookup item).bind ItemRow.sweepGen)⟩ }

/-- The effect of a statement. Guids and streams are kept in tables that are not
modelled; a deleted variant takes its parts along. -/
def Index.apply (i : Index) : Statement -> Option Index
  | .upsertItem item libraryID gen => some (i.putItem item libraryID gen)
  | .upsertVariant item mediaIndex row =>
    some { i with variants := i.variants.set (item, mediaIndex) row }
  | .upsertPart variant partIndex row =>
    (i.parts.put (variant, partIndex) row).map fun parts => { i with parts := parts }
  | .pruneParts variant seen =>
    some
      { i with parts := i.parts.keep fun k _ => k.1 != variant || seen.contains k.2 }
  | .pruneVariants item seen =>
    some
      { i with
        variants := i.variants.keep fun k _ => k.1 != item || seen.contains k.2
        parts := i.parts.keep fun k _ => k.1.1 != item || seen.contains k.1.2 }
  | .insertGuid _ _ => some i
  | .pruneGuids _ => some i
  | .clearStreams _ => some i
  | .insertStream _ _ => some i

/-- Which statements the database carries out: it is available, and the values, of the
columns left out here as well, fit their types. -/
abbrev Accepts := Statement -> Bool

def exec (accepts : Accepts) (i : Index) (s : Statement) : Option Index :=
  if accepts s then i.apply s else none

inductive SyncError where
  | withoutRatingKey
  | failed (s : Statement)

def execute (accepts : Accepts) : Index -> List Statement -> Except SyncError Unit × Index
  | i, [] => (Except.ok (), i)
  | i, s :: rest =>
    match exec accepts i s with
    | none => (Except.error (.failed s), i)
    | some next => execute accepts next rest

/-!
## Writing an item
-/

def variantRow (m : MediaJSON) : VariantRow where
  plexMediaID := m.id.map formatInt
  videoCodec := nullIfEmpty m.videoCodec
  width := m.width
  height := m.height
  bitrateKbps := m.bitrate
  dynamicRange := normalizeDynamicRange m.dynamicRange [] m.videoCodec m.videoProfile
  audioChannels := m.audioChannels

def partRow (p : PartJSON) : Option PartRow :=
  p.id.map fun id => ⟨formatInt id, nullIfEmpty p.key⟩

def partStatements (variant : VariantKey) (pidx : Nat) (p : PartJSON) : List Statement :=
  match partRow p with
  | none => []
  | some row =>
    .upsertPart variant pidx row :: .clearStreams (variant, pidx) ::
      p.streams.map (.insertStream (variant, pidx))

def partsFrom (variant : VariantKey) : Nat -> List PartJSON -> List Statement
  | _, [] => []
  | pidx, p :: rest => partStatements variant pidx p ++ partsFrom variant (pidx + 1) rest

def seenPart : Nat -> List PartJSON -> List Int
  | _, [] => []
  | pidx, p :: rest =>
    if (partRow p).isSome then (pidx : Int) :: seenPart (pidx + 1) rest
    else seenPart (pidx + 1) rest

def variantStatements (item : ItemKey) (idx : Nat) (m : MediaJSON) : List Statement :=
  .upsertVariant item idx (variantRow m) ::
    (partsFrom (item, idx) 0 m.parts ++ [.pruneParts (item, idx) (seenPart 0 m.parts)])

def variantsFrom (item : ItemKey) : Nat -> List MediaJSON -> List Statement
  | _, [] => []
  | idx, m :: rest => variantStatements item idx m ++ variantsFrom item (idx + 1) rest

def seenIdx (media : List MediaJSON) : List Int :=
  (List.range media.length).map Int.ofNat

/-- What is sent to the database for an item, as long as nothing fails. -/
def itemStatements (server libraryID : GoString) (it : ItemJSON) (gen : Option Int) :
    List Statement :=
  .upsertItem (server, it.ratingKey) libraryID gen ::
    (it.guids.map (.insertGuid (server, it.ratingKey)) ++ .pruneGuids (server, it.ratingKey) ::
        (variantsFrom (server, it.ratingKey) 0 it.media ++
          [.pruneVariants (server, it.ratingKey) (seenIdx it.media)]))

def upsertItem (accepts : Accepts) (server libraryID : GoString) (it : ItemJSON)
    (gen : Option Int) (i : Index) : Except SyncError Unit × Index :=
  if it.ratingKey = [] then (Except.error .withoutRatingKey, i)
  else execute accepts i (itemStatements server libraryID it gen)

/-!
## Runs of statements
-/

variable {accepts : Accepts} {statements : List Statement}

variable {i j : Index}

theorem execute_ok :
    execute accepts i statements = (Except.ok (), j) <->
      run (exec accepts) i statements = some j := by
  induction statements generalizing i with
  | nil =>
    simp [execute, run]
  | cons s rest ih =>
    rw [execute, run]
    cases exec accepts i s with
    | none =>
      simp
    | some next => exact ih

theorem run_accepted (h : run (exec accepts) i statements = some j) :
    forall s, s ∈ statements -> accepts s = true := by
  induction statements generalizing i with
  | nil =>
    intro s hs
    cases hs
  | cons first rest ih =>
    rw [run] at h
    intro s hs
    split at h
    · cases h
    rename_i next hexec
    rcases List.mem_cons.mp hs with rfl | hrest
    · unfold exec at hexec
      split at hexec
      · assumption
      · cases hexec
    · exact ih h s hrest

theorem run_exec (haccepted : forall s, s ∈ statements -> accepts s = true) (i : Index) :
    run (exec accepts) i statements = run Index.apply i statements := by
  induction statements generalizing i with
  | nil => rfl
  | cons s rest ih =>
    rw [run, run, exec, if_pos (haccepted s List.mem_cons_self)]
    cases i.apply s with
    | none => rfl
    | some next =>
      exact ih (fun other hother => haccepted other (List.mem_cons_of_mem s hother)) next

theorem run_eq_some :
    run (exec accepts) i statements = some j <-> (forall s, s ∈ statements -> accepts s = true) ∧
        run Index.apply i statements = some j := by
  constructor
  · intro h
    have haccepted := run_accepted h
    exact ⟨haccepted, (run_exec haccepted i).symm.trans h⟩
  intro h
  exact (run_exec h.left i).trans h.right

theorem run_quiet (h : forall s, s ∈ statements -> i.apply s = some i) :
    run Index.apply i statements = some i := by
  induction statements with
  | nil => rfl
  | cons s rest ih =>
    rw [run, h s List.mem_cons_self]
    exact ih fun other hother => h other (List.mem_cons_of_mem s hother)

theorem run_partStatements (variant : VariantKey) (pidx : Nat) (p : PartJSON) (i : Index) :
    run Index.apply i (partStatements variant pidx p) =
      match partRow p with
      | none => some i
      | some row =>
        (i.parts.put (variant, (pidx : Int)) row).map fun parts =>
          { i with parts := parts } := by
  unfold partStatements
  cases partRow p with
  | none => rfl
  | some row =>
    simp only
    rw [run, Index.apply]
    cases i.parts.put (variant, (pidx : Int)) row with
    | none => rfl
    | some parts =>
      rw [Option.map_some]
      apply run_quiet
      intro s hs
      rcases List.mem_cons.mp hs with rfl | hs
      · rfl
      rcases List.mem_map.mp hs with ⟨stream, _, rfl⟩
      rfl

theorem upsertItem_ok {server libraryID : GoString} {it : ItemJSON}
    {gen : Option Int} {old new : Index} :
    upsertItem accepts server libraryID it gen old = (Except.ok (), new) <-> it.ratingKey ≠ [] ∧
      (forall s, s ∈ itemStatements server libraryID it gen -> accepts s = true) ∧
      run Index.apply old (itemStatements server libraryID it gen) = some new := by
  unfold upsertItem
  by_cases hkey : it.ratingKey = []
  · rw [if_pos hkey]
    simp [hkey]
  rw [if_neg hkey, execute_ok, run_eq_some]
  simp [hkey]

end ReplxEdge.Sync
