import ReplxEdge.Foundation.Json
import ReplxEdge.Foundation.Table

/-!
# Settings

A request changes settings key by key, in the order in which Go visits the map
of its body. Each key is checked and stored before the next one is looked at.
-/

namespace ReplxEdge.Admin

open Foundation

def settingBounds : List (GoString × Int × Int) :=
  [(str "replx.playback_retention_days", 1, 3650),
    (str "replx.audit_retention_days", 1, 3650)]

inductive SettingError where
  | unknown
  | notInteger
  | outOfRange (min max : Int)
deriving DecidableEq

/-- What an error says of a key, which is quoted as `%q` does; `keys` are the mutable settings
in the order of their visits. -/
def SettingError.message (quoted : GoString) (keys : List GoString) : SettingError -> GoString
  | unknown => str "unknown setting " ++ quoted ++ str ": mutable settings are exactly [" ++
      join 32 keys ++
      str "]; secrets, bindings and onboarding state require restart/re-onboarding"
  | notInteger => str "setting " ++ quoted ++ str " must be an integer number of days"
  | outOfRange min max => str "setting " ++ quoted ++ str " must be " ++ formatInt min ++
      str ".." ++ formatInt max ++ str " days"

/-- What `json.Unmarshal` reads into an `int` that is zero before. -/
def readDays : Json -> Option Int
  | .null => some 0
  | .number n => n.int
  | _ => none

def validatedSetting (key : GoString) (raw : Json) : Except SettingError Int :=
  match settingBounds.lookup key with
  | none => .error .unknown
  | some (min, max) =>
    match readDays raw with
    | none => .error .notInteger
    | some n => if n < min ∨ max < n then .error (.outOfRange min max) else .ok n

/-- The rows of `app_settings`: a value and when it was written. -/
abbrev SettingRows := Table GoString (Int × Instant)

inductive SettingsAnswer where
  | updated
  | invalid (key : GoString) (reason : SettingError)
  | storeFailed
deriving DecidableEq

/-- The keys of the body in the order of their visits; `fails` are those that the database
does not store. -/
def patchSettings (now : Instant) (fails : GoString -> Bool) :
    List (GoString × Json) -> SettingRows -> SettingsAnswer × SettingRows
  | [], rows => (.updated, rows)
  | (key, raw) :: rest, rows =>
    match validatedSetting key raw with
    | .error reason => (.invalid key reason, rows)
    | .ok n =>
      if fails key then (.storeFailed, rows)
      else patchSettings now fails rest (rows.set key (n, now))

def Valid (setting : GoString × Json) : Prop :=
  exists n, validatedSetting setting.1 setting.2 = .ok n

/-- However the body is visited, a request that is refused for a key changes no row. -/
def RefusedUnchanged (body : List (GoString × Json)) : Prop :=
  forall visited now fails rows key reason, visited.Perm body ->
    (patchSettings now fails visited rows).1 = .invalid key reason ->
      (patchSettings now fails visited rows).2 = rows

theorem patchSettings_valid {now : Instant} {fails : GoString -> Bool}
    {visited : List (GoString × Json)} (h : forall x, x ∈ visited -> Valid x)
    (rows : SettingRows) (key : GoString) (reason : SettingError) :
    (patchSettings now fails visited rows).1 ≠ .invalid key reason := by
  induction visited generalizing rows with
  | nil => exact nofun
  | cons x rest ih =>
    rcases h x List.mem_cons_self with ⟨n, hn⟩
    unfold patchSettings
    simp only [hn]
    split
    · exact nofun
    · exact ih (fun y hy => h y (List.mem_cons_of_mem x hy)) _

theorem exists_error {x : GoString × Json} (h : ¬ Valid x) :
    exists reason, validatedSetting x.1 x.2 = .error reason := by
  cases hx : validatedSetting x.1 x.2 with
  | error reason => exact ⟨reason, rfl⟩
  | ok n => exact absurd ⟨n, hx⟩ h

/-- A refused request leaves the rows alone exactly when its body mixes no valid setting with
an invalid one. -/
theorem refused_unchanged_iff (body : List (GoString × Json)) :
    RefusedUnchanged body <->
      (forall x, x ∈ body -> Valid x) ∨ forall x, x ∈ body -> ¬ Valid x := by
  constructor
  · intro h
    classical
    by_contra hmixed
    simp only [not_or, not_forall, not_not] at hmixed
    rcases hmixed with ⟨⟨bad, hbad, hinvalid⟩, good, hgood, n, hn⟩
    rcases exists_error hinvalid with ⟨reason, hreason⟩
    have hne : bad ≠ good := fun heq => hinvalid ⟨n, heq ▸ hn⟩
    -- the valid setting is visited first and stored, then the invalid one is met
    have hperm : (good :: bad :: (body.erase good).erase bad).Perm body :=
      ((List.perm_cons_erase ((List.mem_erase_of_ne hne).mpr hbad)).symm.cons good).trans
        (List.perm_cons_erase hgood).symm
    have hrows := h _ 0 (fun _ => false) Table.empty bad.1 reason hperm
    simp only [patchSettings, hn, hreason, Bool.false_eq_true, if_false] at hrows
    have hfound : (Table.set (Table.empty : SettingRows) good.1 (n, 0)).lookup good.1 = none :=
      congrArg (fun rows : SettingRows => rows.lookup good.1) (hrows trivial)
    rw [Table.lookup_set, if_pos rfl] at hfound
    cases hfound
  intro h visited now fails rows key reason hperm hanswer
  rcases h with hvalid | hinvalid
  · exact absurd hanswer
      (patchSettings_valid (fun x hx => hvalid x (hperm.mem_iff.mp hx)) rows key reason)
  cases visited with
  | nil => rfl
  | cons x rest =>
    rcases exists_error (hinvalid x (hperm.mem_iff.mp List.mem_cons_self)) with ⟨e, he⟩
    simp only [patchSettings, he]

theorem stored_before_refused :
    (patchSettings 0 (fun _ => false)
        [(str "replx.audit_retention_days", .number ⟨false, 1, 0, none⟩),
          (str "replx.secret", .null)] Table.empty).1 =
      .invalid (str "replx.secret") .unknown ∧
    ((patchSettings 0 (fun _ => false)
        [(str "replx.audit_retention_days", .number ⟨false, 1, 0, none⟩),
          (str "replx.secret", .null)] Table.empty).2.lookup
      (str "replx.audit_retention_days")) = some (1, 0) := by
  decide

/-!
## Accepted requests
-/

section Accepted

variable {now : Instant} {fails : GoString -> Bool} {visited : List (GoString × Json)}
variable {rows : SettingRows}

theorem patchSettings_updated :
    (patchSettings now fails visited rows).1 = .updated <->
      forall x, x ∈ visited -> Valid x ∧ fails x.1 = false := by
  induction visited generalizing rows with
  | nil => exact ⟨nofun, fun _ => rfl⟩
  | cons x rest ih =>
    rw [List.forall_mem_cons, patchSettings]
    cases hx : validatedSetting x.1 x.2 with
    | error reason => simp [Valid, hx]
    | ok n =>
      cases hfails : fails x.1 with
      | true => simp
      | false => simp [Valid, hx, ih]

/-- Each key of the body has its checked value, and every other row is as before. -/
structure Applied (now : Instant) (body : List (GoString × Json)) (rows after : SettingRows) :
    Prop where
  stored : forall x, x ∈ body -> exists n, validatedSetting x.1 x.2 = .ok n ∧
    after.lookup x.1 = some (n, now)
  kept : forall key, key ∉ body.map Prod.fst -> after.lookup key = rows.lookup key

theorem patchSettings_applied (hkeys : (visited.map Prod.fst).Nodup)
    (h : (patchSettings now fails visited rows).1 = .updated) :
    Applied now visited rows (patchSettings now fails visited rows).2 := by
  induction visited generalizing rows with
  | nil => exact ⟨nofun, fun _ _ => rfl⟩
  | cons y rest ih =>
    rw [List.map_cons, List.nodup_cons] at hkeys
    unfold patchSettings at h ⊢
    split at h
    · cases h
    rename_i n hn
    split at h
    · cases h
    rename_i hstored
    simp only [if_neg hstored]
    have hrest := ih hkeys.right h
    constructor
    · intro x hx
      rcases List.mem_cons.mp hx with rfl | hx
      · exact ⟨n, hn, by rw [hrest.kept x.1 hkeys.left, Table.lookup_set, if_pos rfl]⟩
      · exact hrest.stored x hx
    intro key hkey
    rw [List.map_cons, List.mem_cons, not_or] at hkey
    rw [hrest.kept key hkey.right, Table.lookup_set, if_neg hkey.left]

/-- Whether a request is accepted, and what it then does, is the same for every order of
visits. -/
theorem accepted_in_any_order (now : Instant) (fails : GoString -> Bool)
    (visited body : List (GoString × Json)) (rows : SettingRows) (hperm : visited.Perm body)
    (hkeys : (body.map Prod.fst).Nodup) :
    ((patchSettings now fails visited rows).1 = .updated <->
        forall x, x ∈ body -> Valid x ∧ fails x.1 = false) ∧
      ((patchSettings now fails visited rows).1 = .updated ->
        Applied now body rows (patchSettings now fails visited rows).2) := by
  constructor
  · rw [patchSettings_updated]
    exact forall_congr' fun x => imp_congr_left hperm.mem_iff
  intro h
  have happlied := patchSettings_applied ((hperm.map Prod.fst).nodup_iff.mpr hkeys) h
  exact ⟨fun x hx => happlied.stored x (hperm.mem_iff.mpr hx), fun key hkey =>
    happlied.kept key fun hmem => hkey ((hperm.map Prod.fst).mem_iff.mp hmem)⟩

def bothSettings : List (GoString × Json) :=
  [(str "replx.playback_retention_days", .number ⟨false, 7, 0, none⟩),
    (str "replx.audit_retention_days", .number ⟨false, 1, 0, none⟩)]

theorem accepted_in_any_order_swapped :
    (patchSettings 0 (fun _ => false) bothSettings.reverse Table.empty).1 = .updated ∧
      Applied 0 bothSettings Table.empty
        (patchSettings 0 (fun _ => false) bothSettings.reverse Table.empty).2 := by
  have hupdated : (patchSettings 0 (fun _ => false) bothSettings.reverse Table.empty).1 =
      .updated := by
    decide
  exact ⟨hupdated, (accepted_in_any_order 0 _ _ _ _ (List.reverse_perm bothSettings)
    (by decide)).right hupdated⟩

end Accepted

end ReplxEdge.Admin
