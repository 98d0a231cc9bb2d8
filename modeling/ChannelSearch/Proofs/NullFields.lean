import ChannelSearch.Proofs.MalformedRecords

/-!
Optional fields that an export gives as null. Main statement: a null is read as its name where text is
wanted, and stops the import where a time is. The field counts as absent only where it is not read: in
a dry run, and in a post or a file that lacks a required field.
-/

namespace ChannelSearch

open Import (each)

namespace Json

/-- An object with its fields changed. -/
def mapFields (f : List (Text × Json) → List (Text × Json)) : Json → Json
  | .object fields => .object (f fields)
  | v => v

/-- A list with the fields of its objects changed, by their places. -/
def mapItems (f : Nat → List (Text × Json) → List (Text × Json)) : Json → Json
  | .array vs => .array (vs.mapIdx fun i v => v.mapFields (f i))
  | v => v

/-- An export with the fields of its records changed, by the key of their list and their places. -/
def mapRecords (f : Text → Nat → List (Text × Json) → List (Text × Json)) (data : Json) : Json :=
  data.mapFields fun fields => fields.map fun r => (r.1, r.2.mapItems (f r.1))

/-- The texts that a record of a list may leave out, and the time of deletion. -/
def optionalFields (key : Text) : List Text :=
  if key = "teams".toList then ["name".toList]
  else if key = "users".toList then ["delete_at".toList]
  else if key = "channels".toList then
    ["team_id".toList, "display_name".toList, "type".toList, "delete_at".toList]
  else if key = "posts".toList then
    ["message".toList, "root_id".toList, "type".toList, "delete_at".toList]
  else if key = "files".toList then
    ["post_id".toList, "extension".toList, "content".toList, "delete_at".toList]
  else []

/-- The optional fields that are read as text. -/
def optionalTexts (key : Text) : List Text := (optionalFields key).filter (· ≠ "delete_at".toList)

/-- The fields of a record without the chosen ones of some that are null. -/
def dropFields (names : List Text) (chosen : Text → Bool) (fields : List (Text × Json)) :
    List (Text × Json) :=
  fields.filter fun f => !(f.2.isNull && f.1 ∈ names && chosen f.1)

/-- The fields of a record, where chosen ones of some that are null are given by their name. -/
def nameFields (names : List Text) (chosen : Text → Bool) (fields : List (Text × Json)) :
    List (Text × Json) :=
  fields.map fun f =>
    (f.1, if f.2.isNull && f.1 ∈ names && chosen f.1 then .text Json.null.shown else f.2)

/-- An export without the chosen ones of the optional fields that are null: each is chosen by the key of
its list, the place of its record and its name. -/
def dropNulls (chosen : Text → Nat → Text → Bool) : Json → Json :=
  mapRecords fun key i => dropFields (optionalFields key) (chosen key i)

/-- An export in which chosen nulls are given by their name where text is wanted. -/
def nameNulls (chosen : Text → Nat → Text → Bool) : Json → Json :=
  mapRecords fun key i => nameFields (optionalTexts key) (chosen key i)

/-- A value at a place of the list under a key. -/
def Holds (data : Json) (key : String) (i : Nat) (v : Json) : Prop :=
  ∃ vs, Record.listOf data key = .ok vs ∧ vs[i]? = some v

/-- The chosen fields are those of posts and files that lack a required field. -/
def OnlySkipped (data : Json) (chosen : Text → Nat → Text → Bool) : Prop :=
  ∀ (key : String) (i : Nat) (v : Json) (name : Text), data.Holds key i v →
    chosen key.toList i name = true →
      key = "posts" ∧ Record.isComplete Record.postFields v = false ∨
        key = "files" ∧ Record.isComplete Record.fileFields v = false

/-- A record that an import must read has a null for the time of deletion. -/
def HasNullTime (data : Json) : Prop :=
  ∃ (key : String) (i : Nat) (v : Json), data.Holds key i v ∧
    v.memberOr "delete_at" (.int 0) = .null ∧
      (key = "users" ∨ key = "channels" ∨
        key = "posts" ∧ Record.isComplete Record.postFields v = true ∨
          key = "files" ∧ Record.isComplete Record.fileFields v = true)

theorem field?_map (g : Text → Json → Json) (fields : List (Text × Json)) (key : Text) :
    field? (fields.map fun r => (r.1, g r.1 r.2)) key = (field? fields key).map (g key) := by
  induction fields with
  | nil => rfl
  | cons f fields ih =>
    unfold field? at ih ⊢
    by_cases h : f.1 = key
    · simp [h]
    · simpa [List.find?_cons, h] using ih

/-- A field that is not removed is found as before. -/
theorem field?_filter {p : Text × Json → Bool} {key : Text} (h : ∀ v, p (key, v) = true)
    (fields : List (Text × Json)) : field? (fields.filter p) key = field? fields key := by
  have hkept (f : Text × Json) :
      decide (p f = true ∧ decide (f.1 = key) = true) = decide (f.1 = key) := by
    obtain ⟨k, v⟩ := f
    by_cases hk : k = key
    · subst hk
      simp [h]
    · simp [hk]
  unfold field?
  rw [List.find?_filter, funext hkept]

theorem getOr_mapRecords (f : Text → Nat → List (Text × Json) → List (Text × Json)) (data : Json)
    (key : String) :
    Record.getOr (data.mapRecords f) key (.array []) =
      (Record.getOr data key (.array [])).map (mapItems (f key.toList)) := by
  cases data with
  | object fields =>
    show Except.ok ((field? (fields.map fun r => (r.1, r.2.mapItems (f r.1))) key.toList).getD _) = _
    rw [field?_map (fun key v => v.mapItems (f key))]
    show _ = Except.ok (mapItems (f key.toList) ((field? fields key.toList).getD (.array [])))
    cases field? fields key.toList <;> rfl
  | _ => rfl

theorem elements_mapItems (f : Nat → List (Text × Json) → List (Text × Json)) (v : Json) :
    Record.elements (v.mapItems f) =
      (Record.elements v).map fun vs => vs.mapIdx fun i w => w.mapFields (f i) := by
  -- The members of an object or a text are texts, which have no fields to change.
  have htexts {α : Type} (g : α → Text) (as : List α) :
      (as.map fun a => Json.text (g a)).mapIdx (fun i w => w.mapFields (f i)) =
        as.map fun a => .text (g a) := by
    refine List.ext_getElem? fun i => ?_
    simp [mapFields, Function.comp_def]
  cases v with
  | array vs => rfl
  | object fields => exact congrArg Except.ok (htexts Prod.fst fields).symm
  | text t => exact congrArg Except.ok (htexts (fun c => [c]) t).symm
  | _ => rfl

theorem count_mapItems (f : Nat → List (Text × Json) → List (Text × Json)) (v : Json) :
    Record.count (v.mapItems f) = Record.count v := by
  cases v with
  | array vs => simp [mapItems, Record.count, Json.length]
  | _ => rfl

theorem listOf_mapRecords (f : Text → Nat → List (Text × Json) → List (Text × Json)) (data : Json)
    (key : String) :
    Record.listOf (data.mapRecords f) key =
      (Record.listOf data key).map fun vs => vs.mapIdx fun i w => w.mapFields (f key.toList i) := by
  unfold Record.listOf
  rw [getOr_mapRecords]
  cases Record.getOr data key (.array []) with
  | error e => rfl
  | ok v => exact elements_mapItems (f key.toList) v

end Json

namespace Import

/-- A loop over changed values, where the step for each is the one for the value before. -/
theorem each_mapIdx {f : Json → Import Unit} {g : Nat → Json → Json} {vs : List Json}
    (h : ∀ i v, vs[i]? = some v → f (g i v) = f v) : each f (vs.mapIdx g) = each f vs := by
  induction vs generalizing g with
  | nil => rfl
  | cons v vs ih =>
    rw [List.mapIdx_cons, each_cons, each_cons, h 0 v rfl, ih fun i w hw => h (i + 1) w hw]

theorem read_map_bind {α β γ : Type} (x : Except ImportError α) (g : α → β) (k : β → Import γ) :
    (read (x.map g) >>= k) = read x >>= fun a => k (g a) := by
  cases x <;> rfl

/-- What follows on a read value agrees where it agrees on that value. -/
theorem read_bind_congr {α β : Type} {x : Except ImportError α} {k l : α → Import β}
    (h : ∀ a, x = .ok a → k a = l a) : (read x >>= k) = read x >>= l := by
  cases x with
  | error e => rfl
  | ok a => exact h a rfl

/-- What follows where no required fields are found. -/
theorem read_key_congr {κ β : Type} {x : Except ImportError (Option κ)} {k l : Option κ → Import β}
    (hx : ∀ key, x ≠ .ok (some key)) (hnone : k none = l none) : (read x >>= k) = read x >>= l := by
  apply read_bind_congr
  intro key hkey
  cases key with
  | none => exact hnone
  | some key => exact absurd hkey (hx key)

section MapRecords

variable {f : Text → Nat → List (Text × Json) → List (Text × Json)} {data : Json}

theorem list_mapRecords {step : Json → Import Unit} {key : String}
    (h : ∀ i v, data.Holds key i v → step (v.mapFields (f key.toList i)) = step v) :
    (read (Record.listOf (data.mapRecords f) key) >>= each step) =
      read (Record.listOf data key) >>= each step := by
  rw [Json.listOf_mapRecords, read_map_bind]
  exact read_bind_congr fun vs hvs => each_mapIdx fun i v hv => h i v ⟨vs, hvs, hv⟩

/-- An import reads an export and its changed form alike where its steps do. -/
theorem document_mapRecords {dryRun : Bool}
    (hteams : dryRun = false → ∀ i v, data.Holds "teams" i v →
      team (v.mapFields (f "teams".toList i)) = team v)
    (husers : dryRun = false → ∀ i v, data.Holds "users" i v →
      user (v.mapFields (f "users".toList i)) = user v)
    (hchannels : dryRun = false → ∀ i v, data.Holds "channels" i v →
      channel (v.mapFields (f "channels".toList i)) = channel v)
    (hposts : ∀ i v, data.Holds "posts" i v →
      post dryRun (v.mapFields (f "posts".toList i)) = post dryRun v)
    (hfiles : ∀ i v, data.Holds "files" i v →
      file dryRun (v.mapFields (f "files".toList i)) = file dryRun v) :
    document (data.mapRecords f) dryRun = document data dryRun := by
  have hpeople : peopleUnless dryRun (data.mapRecords f) = peopleUnless dryRun data := by
    cases dryRun with
    | true => rfl
    | false =>
      show people (data.mapRecords f) = people data
      rw [people_eq, people_eq, list_mapRecords (hteams rfl), list_mapRecords (husers rfl),
        list_mapRecords (hchannels rfl)]
  have hstep {step : Json → Import Unit} {key : String} {v : Json}
      (hv : Record.getOr data key (.array []) = .ok v)
      (h : ∀ i w, data.Holds key i w → step (w.mapFields (f key.toList i)) = step w) {vs : List Json}
      (hvs : Record.elements v = .ok vs) :
      each step (vs.mapIdx fun i w => w.mapFields (f key.toList i)) = each step vs :=
    each_mapIdx fun i w hw => h i w ⟨vs, bind_eq_ok.mpr ⟨v, hv, hvs⟩, hw⟩
  rw [document_eq, document_eq, hpeople]
  simp only [Json.getOr_mapRecords, read_map_bind, Json.count_mapItems, Json.elements_mapItems]
  refine read_bind_congr fun posts hp => read_bind_congr fun files hf => bind_congr fun _ =>
    bind_congr fun _ => bind_congr fun _ => bind_congr fun _ => read_bind_congr fun vs hvs => ?_
  rw [hstep hp hposts hvs]
  refine bind_congr fun _ => read_bind_congr fun ws hws => ?_
  rw [hstep hf hfiles hws]

end MapRecords

end Import

namespace Json

/-- Two records have the same values outside some fields. -/
structure AgreesOutside (names : List Text) (v w : Json) : Prop where
  getOr : ∀ (key : String) (default : Json), key.toList ∉ names →
    Record.getOr v key default = Record.getOr w key default
  require : ∀ key : String, key.toList ∉ names → Record.require v key = Record.require w key

/-- Two records have the same values outside some fields, and the same texts in all. -/
structure ReadsAs (names : List Text) (v w : Json) : Prop extends AgreesOutside names v w where
  shown : ∀ (key : String) (default : Json),
    (Record.getOr v key default).map Json.shown = (Record.getOr w key default).map Json.shown

variable {names : List Text} {v w : Json}

theorem AgreesOutside.mono {names' : List Text} (h : AgreesOutside names v w) (hsub : names ⊆ names') :
    AgreesOutside names' v w :=
  ⟨fun key default hkey => h.getOr key default fun hmem => hkey (hsub hmem),
    fun key hkey => h.require key fun hmem => hkey (hsub hmem)⟩

theorem agreesOutside_filter {p : Text × Json → Bool} (h : ∀ key v, key ∉ names → p (key, v) = true)
    (v : Json) : AgreesOutside names (v.mapFields fun fields => fields.filter p) v := by
  cases v with
  | object fields =>
    have hfield (key : String) (hkey : key.toList ∉ names) :
        field? (fields.filter p) key.toList = field? fields key.toList :=
      field?_filter (fun v => h key.toList v hkey) fields
    constructor
    · intro key default hkey
      show Except.ok ((field? (fields.filter p) key.toList).getD default) = _
      rw [hfield key hkey]
      rfl
    · intro key hkey
      simp only [mapFields, Record.require, hfield key hkey]
  | _ => exact ⟨fun _ _ _ => rfl, fun _ _ => rfl⟩

theorem readsAs_map {g : Text → Json → Json} (hvalue : ∀ key v, key ∉ names → g key v = v)
    (hshown : ∀ key v, (g key v).shown = v.shown) (v : Json) :
    ReadsAs names (v.mapFields fun fields => fields.map fun r => (r.1, g r.1 r.2)) v := by
  cases v with
  | object fields =>
    have hfield (key : String) : field? (fields.map fun r => (r.1, g r.1 r.2)) key.toList =
        (field? fields key.toList).map (g key.toList) := field?_map g fields key.toList
    have hsame (key : String) (hkey : key.toList ∉ names) :
        field? (fields.map fun r => (r.1, g r.1 r.2)) key.toList = field? fields key.toList := by
      rw [hfield, funext fun v => hvalue key.toList v hkey]
      exact Option.map_id'
    refine { getOr := ?_, require := ?_, shown := ?_ }
    · intro key default hkey
      show Except.ok ((field? (fields.map fun r => (r.1, g r.1 r.2)) key.toList).getD default) = _
      rw [hsame key hkey]
      rfl
    · intro key hkey
      simp only [mapFields, Record.require, hsame key hkey]
    · intro key default
      show Except.ok ((field? (fields.map fun r => (r.1, g r.1 r.2)) key.toList).getD default).shown =
        Except.ok ((field? fields key.toList).getD default).shown
      rw [hfield]
      cases field? fields key.toList with
      | none => rfl
      | some v => exact congrArg Except.ok (hshown key.toList v)
  | _ => exact { getOr := fun _ _ _ => rfl, require := fun _ _ => rfl, shown := fun _ _ => rfl }

theorem agreesOutside_dropFields (names : List Text) (chosen : Text → Bool) (v : Json) :
    AgreesOutside names (v.mapFields (dropFields names chosen)) v :=
  agreesOutside_filter (fun name w hname => by simp [hname]) v

theorem mapFields_dropFields_of_none {chosen : Text → Bool} (h : ∀ name, chosen name = false)
    (names : List Text) (v : Json) : v.mapFields (dropFields names chosen) = v := by
  cases v with
  | object fields => exact congrArg object (List.filter_eq_self.mpr fun f _ => by simp [h])
  | _ => rfl

theorem readsAs_nameFields (names : List Text) (chosen : Text → Bool) (v : Json) :
    ReadsAs names (v.mapFields (nameFields names chosen)) v := by
  refine readsAs_map (g := fun name w => if w.isNull && name ∈ names && chosen name then
    .text Json.null.shown else w) (fun name w hname => ?_) (fun name w => ?_) v
  · simp [hname]
  · split_ifs with hnull
    · cases w with
      | null => rfl
      | _ => simp [isNull] at hnull
    · rfl

theorem ReadsAs.textOr (h : ReadsAs names v w) (key : String) (default : Text) :
    Record.textOr v key default = Record.textOr w key default := h.shown key (.text default)

theorem AgreesOutside.listOf (h : AgreesOutside names v w) (key : String) (hkey : key.toList ∉ names) :
    Record.listOf v key = Record.listOf w key := by
  unfold Record.listOf
  rw [h.getOr key _ hkey]

theorem AgreesOutside.integerOr (h : AgreesOutside names v w) (key : String) (n : Int)
    (hkey : key.toList ∉ names) : Record.integerOr v key n = Record.integerOr w key n := by
  unfold Record.integerOr
  rw [h.getOr key _ hkey]

end Json

namespace Record

variable {v w : Json}

theorem bind_shown_congr {β : Type} {x y : Except ImportError Json} {f : Text → Except ImportError β}
    (h : x.map Json.shown = y.map Json.shown) :
    (x >>= fun a => f a.shown) = y >>= fun a => f a.shown := by
  have hmap (z : Except ImportError Json) : (z >>= fun a => f a.shown) = z.map Json.shown >>= f := by
    cases z <;> rfl
  rw [hmap, hmap, h]

theorem team_congr (h : v.ReadsAs (Json.optionalTexts "teams".toList) w) : team v = team w := by
  unfold team
  rw [h.require "id" (by decide)]
  refine congrArg _ (funext fun id => ?_)
  exact bind_shown_congr (f := fun name => pure (Team.mk id.shown name 0)) (h.shown "name" id)

theorem user_congr (h : v.ReadsAs (Json.optionalTexts "users".toList) w) : user v = user w := by
  unfold user
  rw [h.require "id" (by decide), h.require "username" (by decide),
    h.integerOr "delete_at" 0 (by decide)]

theorem channel_congr (h : v.ReadsAs (Json.optionalTexts "channels".toList) w) :
    channel v = channel w := by
  unfold channel
  rw [h.require "id" (by decide), h.require "name" (by decide), h.textOr, h.textOr, h.textOr,
    h.integerOr "delete_at" 0 (by decide)]

theorem postKey?_congr (h : v.AgreesOutside (Json.optionalFields "posts".toList) w) :
    postKey? v = postKey? w := by
  unfold postKey? get
  rw [h.getOr "id" _ (by decide), h.getOr "channel_id" _ (by decide), h.getOr "user_id" _ (by decide),
    h.getOr "create_at" _ (by decide)]

theorem fileKey?_congr (h : v.AgreesOutside (Json.optionalFields "files".toList) w) :
    fileKey? v = fileKey? w := by
  unfold fileKey? get
  rw [h.getOr "id" _ (by decide), h.getOr "channel_id" _ (by decide),
    h.getOr "creator_id" _ (by decide), h.getOr "name" _ (by decide), h.getOr "create_at" _ (by decide)]

theorem post_congr (h : v.ReadsAs (Json.optionalTexts "posts".toList) w) : post v = post w := by
  funext key
  unfold post
  simp only [h.textOr, h.integerOr "delete_at" 0 (by decide)]

theorem file_congr (h : v.ReadsAs (Json.optionalTexts "files".toList) w) : file v = file w := by
  funext key
  unfold file
  simp only [h.textOr, h.integerOr "delete_at" 0 (by decide)]

theorem isComplete_of_postKey? {key : Json × Json × Json × Json} (h : postKey? v = .ok (some key)) :
    isComplete postFields v = true := by
  cases v with
  | object fields =>
    rw [postKey?_eq rfl] at h
    by_contra hincomplete
    rw [if_neg hincomplete] at h
    cases h
  | _ => cases h

theorem isComplete_of_fileKey? {key : Json × Json × Json × Json × Json}
    (h : fileKey? v = .ok (some key)) : isComplete fileFields v = true := by
  cases v with
  | object fields =>
    rw [fileKey?_eq rfl] at h
    by_contra hincomplete
    rw [if_neg hincomplete] at h
    cases h
  | _ => cases h

end Record

namespace Import

variable {v w : Json}

theorem team_congr (h : v.ReadsAs (Json.optionalTexts "teams".toList) w) : team v = team w := by
  unfold team
  rw [Record.team_congr h]

theorem user_congr (h : v.ReadsAs (Json.optionalTexts "users".toList) w) : user v = user w := by
  unfold user
  rw [Record.user_congr h, h.require "id" (by decide), h.require "username" (by decide),
    h.listOf "teams" (by decide)]

theorem channel_congr (h : v.ReadsAs (Json.optionalTexts "channels".toList) w) :
    channel v = channel w := by
  unfold channel
  rw [Record.channel_congr h, h.listOf "members" (by decide)]

theorem post_congr (h : v.ReadsAs (Json.optionalTexts "posts".toList) w) (dryRun : Bool) :
    post dryRun v = post dryRun w := by
  unfold post
  rw [Record.postKey?_congr (h.mono (List.filter_subset_self _)), Record.post_congr h]

theorem file_congr (h : v.ReadsAs (Json.optionalTexts "files".toList) w) (dryRun : Bool) :
    file dryRun v = file dryRun w := by
  unfold file
  rw [Record.fileKey?_congr (h.mono (List.filter_subset_self _)), Record.file_congr h]

/-- The optional fields of a post are not read by a dry run, nor where a required one is missing. -/
theorem post_congr_of_unread (h : v.AgreesOutside (Json.optionalFields "posts".toList) w)
    {dryRun : Bool} (hunread : dryRun = true ∨ Record.isComplete Record.postFields w = false) :
    post dryRun v = post dryRun w := by
  unfold post
  rw [Record.postKey?_congr h]
  rcases hunread with rfl | hincomplete
  · rfl
  · refine read_key_congr ?_ (by rfl)
    intro key hkey
    rw [Record.isComplete_of_postKey? hkey] at hincomplete
    cases hincomplete

theorem file_congr_of_unread (h : v.AgreesOutside (Json.optionalFields "files".toList) w)
    {dryRun : Bool} (hunread : dryRun = true ∨ Record.isComplete Record.fileFields w = false) :
    file dryRun v = file dryRun w := by
  unfold file
  rw [Record.fileKey?_congr h]
  rcases hunread with rfl | hincomplete
  · rfl
  · refine read_key_congr ?_ (by rfl)
    intro key hkey
    rw [Record.isComplete_of_fileKey? hkey] at hincomplete
    cases hincomplete

/-- Nulls that are given by their names are read as before. -/
theorem document_nameNulls (data : Json) (chosen : Text → Nat → Text → Bool) (dryRun : Bool) :
    document (data.nameNulls chosen) dryRun = document data dryRun :=
  document_mapRecords (fun _ _ v _ => team_congr (Json.readsAs_nameFields _ _ v))
    (fun _ _ v _ => user_congr (Json.readsAs_nameFields _ _ v))
    (fun _ _ v _ => channel_congr (Json.readsAs_nameFields _ _ v))
    (fun _ v _ => post_congr (Json.readsAs_nameFields _ _ v) dryRun)
    (fun _ v _ => file_congr (Json.readsAs_nameFields _ _ v) dryRun)

/-- Nulls that are not read may be left out. -/
theorem document_dropNulls {data : Json} {chosen : Text → Nat → Text → Bool} {dryRun : Bool}
    (h : dryRun = true ∨ data.OnlySkipped chosen) :
    document (data.dropNulls chosen) dryRun = document data dryRun := by
  have hagrees (key : Text) (i : Nat) (v : Json) :=
    Json.agreesOutside_dropFields (Json.optionalFields key) (chosen key i) v
  -- A record is left as it is, or nothing of what it loses is read.
  have hrecord (key : String) (i : Nat) (v : Json) (hv : data.Holds key i v) :
      v.mapFields (Json.dropFields (Json.optionalFields key.toList) (chosen key.toList i)) = v ∨
        dryRun = true ∨ key = "posts" ∧ Record.isComplete Record.postFields v = false ∨
          key = "files" ∧ Record.isComplete Record.fileFields v = false := by
    by_cases hany : ∃ name, chosen key.toList i name = true
    · obtain ⟨name, hname⟩ := hany
      exact Or.inr (h.imp id fun honly => honly key i v name hv hname)
    · have hnone (name : Text) : chosen key.toList i name = false :=
        Bool.eq_false_iff.mpr fun hname => hany ⟨name, hname⟩
      exact Or.inl (Json.mapFields_dropFields_of_none hnone _ v)
  have hsame (key : String) (hposts : key ≠ "posts") (hfiles : key ≠ "files") (hdry : dryRun = false)
      (i : Nat) (v : Json) (hv : data.Holds key i v) :
      v.mapFields (Json.dropFields (Json.optionalFields key.toList) (chosen key.toList i)) = v := by
    rcases hrecord key i v hv with hsame | htrue | ⟨hkey, -⟩ | ⟨hkey, -⟩
    · exact hsame
    · exact absurd (hdry.symm.trans htrue) nofun
    · exact absurd hkey hposts
    · exact absurd hkey hfiles
  refine document_mapRecords ?_ ?_ ?_ (fun i v hv => ?_) (fun i v hv => ?_)
  · exact fun hdry i v hv => congrArg team (hsame "teams" (by decide) (by decide) hdry i v hv)
  · exact fun hdry i v hv => congrArg user (hsame "users" (by decide) (by decide) hdry i v hv)
  · exact fun hdry i v hv => congrArg channel (hsame "channels" (by decide) (by decide) hdry i v hv)
  · rcases hrecord "posts" i v hv with hsame | htrue | ⟨-, hincomplete⟩ | ⟨hkey, -⟩
    · exact congrArg (post dryRun) hsame
    · exact post_congr_of_unread (hagrees _ i v) (Or.inl htrue)
    · exact post_congr_of_unread (hagrees _ i v) (Or.inr hincomplete)
    · exact absurd hkey (by decide)
  · rcases hrecord "files" i v hv with hsame | htrue | ⟨hkey, -⟩ | ⟨-, hincomplete⟩
    · exact congrArg (file dryRun) hsame
    · exact file_congr_of_unread (hagrees _ i v) (Or.inl htrue)
    · exact absurd hkey (by decide)
    · exact file_congr_of_unread (hagrees _ i v) (Or.inr hincomplete)

end Import

namespace Record

/-- Each value of a list that is read is read. -/
theorem exists_of_listed {ρ : Type} {data v : Json} {key : String} {i : Nat}
    {reads : Json → Except ImportError ρ} {rs : List ρ} (h : listed data key reads = .ok rs)
    (hv : data.Holds key i v) : ∃ r, reads v = .ok r := by
  obtain ⟨vs, hvs, hi⟩ := hv
  obtain ⟨ws, hws, hrs⟩ := bind_eq_ok.mp h
  obtain rfl := Except.ok.inj (hvs.symm.trans hws)
  exact exists_of_mapM hrs v (List.mem_of_getElem? hi)

variable {v : Json}

theorem isObject_of_nullTime (h : v.memberOr "delete_at" (.int 0) = .null) : v.isObject = true := by
  cases v with
  | object fields => rfl
  | _ => cases h

theorem integer_null (n : Int) : integer .null ≠ .ok n := nofun

theorem integerOr_of_nullTime (h : v.memberOr "delete_at" (.int 0) = .null) (n : Int) :
    integerOr v "delete_at" 0 ≠ .ok n := by
  unfold integerOr
  rw [Json.getOr_of_isObject (isObject_of_nullTime h), ok_bind, h]
  exact integer_null n

theorem user_of_nullTime (h : v.memberOr "delete_at" (.int 0) = .null) (u : User) :
    user v ≠ .ok u := by
  intro hu
  obtain ⟨_, -, hu⟩ := bind_eq_ok.mp hu
  obtain ⟨_, -, hu⟩ := bind_eq_ok.mp hu
  obtain ⟨n, hn, -⟩ := bind_eq_ok.mp hu
  exact integerOr_of_nullTime h n hn

theorem channel_of_nullTime (h : v.memberOr "delete_at" (.int 0) = .null) (c : Channel) :
    channel v ≠ .ok c := by
  intro hc
  obtain ⟨_, -, hc⟩ := bind_eq_ok.mp hc
  obtain ⟨_, -, hc⟩ := bind_eq_ok.mp hc
  obtain ⟨_, -, hc⟩ := bind_eq_ok.mp hc
  obtain ⟨_, -, hc⟩ := bind_eq_ok.mp hc
  obtain ⟨_, -, hc⟩ := bind_eq_ok.mp hc
  obtain ⟨n, hn, -⟩ := bind_eq_ok.mp hc
  exact integerOr_of_nullTime h n hn

/-- A complete post or file without a time of deletion that can be read. -/
theorem Keeps.of_nullTime {ρ : Type} {required : List String} {row : Json → Int × Int → ρ}
    {kept? : Json → Except ImportError (Option ρ)} (hkeeps : Keeps required row kept?)
    (h : v.memberOr "delete_at" (.int 0) = .null) (hcomplete : isComplete required v = true)
    (r : Option ρ) : kept? v ≠ .ok r := by
  rw [hkeeps v (isObject_of_nullTime h), if_pos hcomplete]
  intro hr
  obtain ⟨t, ht, -⟩ := map_eq_ok.mp hr
  obtain ⟨-, hdelete, -⟩ := times_eq_ok.mp ht
  rw [h] at hdelete
  exact integer_null t.2 hdelete

end Record

/-- A null for a time of deletion that must be read leaves an export without contents. -/
theorem Json.HasNullTime.contents_ne_ok {data : Json} (h : data.HasNullTime) (c : ExportContents) :
    data.contents ≠ .ok c := by
  intro hc
  obtain ⟨hpeople, hposts, hfiles⟩ := Json.contents_eq_ok.mp hc
  obtain ⟨-, husers, hchannels⟩ := Json.people_eq_ok.mp hpeople
  obtain ⟨key, i, v, hv, hnull, rfl | rfl | ⟨rfl, hcomplete⟩ | ⟨rfl, hcomplete⟩⟩ := h
  · obtain ⟨r, hr⟩ := Record.exists_of_listed husers hv
    obtain ⟨u, hu, -⟩ := Record.userRecord_eq_ok.mp hr
    exact Record.user_of_nullTime hnull u hu
  · obtain ⟨r, hr⟩ := Record.exists_of_listed hchannels hv
    obtain ⟨k, _, hk, -⟩ := Record.channelRecord_eq_ok.mp hr
    exact Record.channel_of_nullTime hnull k hk
  · obtain ⟨r, hr⟩ := Record.exists_of_listed hposts hv
    exact Record.keeps_posts.of_nullTime hnull hcomplete r hr
  · obtain ⟨r, hr⟩ := Record.exists_of_listed hfiles hv
    exact Record.keeps_files.of_nullTime hnull hcomplete r hr

/-- A null is read as its name where text is wanted: the import is the one of the export that gives the
name. Where it is not read, in a dry run or in posts and files that lack a required field, it is the
one of the export without the field. With a null for a time of deletion that must be read, no import
completes. -/
theorem importExport_nulls (s : Store) (chosen : Text → Nat → Text → Bool) {text : Text} {data : Json}
    (hread : Json.read text.unifyNewlines = .ok data) :
    (∀ named dryRun, Json.read (Text.unifyNewlines named) = .ok (data.nameNulls chosen) →
      importExport s named dryRun = importExport s text dryRun) ∧
    (∀ dropped dryRun, Json.read (Text.unifyNewlines dropped) = .ok (data.dropNulls chosen) →
      (dryRun = true ∨ data.OnlySkipped chosen) →
        importExport s dropped dryRun = importExport s text dryRun) ∧
    (data.HasNullTime → ∀ stats, (importExport s text false).1 ≠ .ok stats) := by
  have hrun {t : Text} {d : Json} (h : Json.read t.unifyNewlines = .ok d) (dryRun : Bool) :
      importExport s t dryRun = (Import.document d dryRun).runFrom { store := s } := by
    unfold importExport
    rw [h]
    rfl
  refine ⟨fun named dryRun hnamed => ?_, fun dropped dryRun hdropped h => ?_, fun h stats => ?_⟩
  · rw [hrun hnamed, hrun hread, Import.document_nameNulls]
  · rw [hrun hdropped, hrun hread, Import.document_dropNulls h]
  · rw [hrun hread]
    intro hstats
    obtain ⟨c, hc, -⟩ := (Import.document_completes s data stats _).mp
      ⟨_, Prod.ext hstats rfl, rfl⟩
    exact h.contents_ne_ok c hc

/-- An export of a post with its required fields and one without, each with further fields. -/
def postsExport (complete incomplete : String) : Text :=
  "\x7b\"posts\": [\x7b\"id\": \"p3\", \"channel_id\": \"C1\", \"user_id\": \"u1\", ".toList ++
    "\"create_at\": 1000".toList ++ complete.toList ++ "\x7d, \x7b\"id\": \"p4\"".toList ++
    incomplete.toList ++ "\x7d]\x7d".toList

theorem importExport_nulls_posts :
    importExport sampleStore
        (postsExport ", \"root_id\": \"None\"" ", \"message\": \"None\"") false =
      importExport sampleStore (postsExport ", \"root_id\": null" ", \"message\": null") false ∧
    importExport sampleStore (postsExport ", \"root_id\": null" "") false =
      importExport sampleStore (postsExport ", \"root_id\": null" ", \"message\": null") false ∧
    ∀ stats, (importExport sampleStore (postsExport ", \"delete_at\": null" "") false).1 ≠ .ok stats := by
  let document (text : Text) : Json := (Json.read text.unifyNewlines).toOption.getD .null
  let second (key : Text) (i : Nat) (_ : Text) : Bool := key = "posts".toList && i = 1
  let nulls := postsExport ", \"root_id\": null" ", \"message\": null"
  let untimed := postsExport ", \"delete_at\": null" ""
  have hread : Json.read nulls.unifyNewlines = .ok (document nulls) := by
    simp only [document, nulls]
    delta postsExport
    repeat rw [String.toList_ofList]
    decide +kernel
  have huntimed : Json.read untimed.unifyNewlines = .ok (document untimed) := by
    simp only [document, untimed]
    delta postsExport
    repeat rw [String.toList_ofList]
    decide +kernel
  have hskipped : (document nulls).OnlySkipped second := by
    rintro key i v name ⟨vs, hvs, hv⟩ hchosen
    obtain ⟨hkey, hi⟩ := Bool.and_eq_true_iff.mp hchosen
    obtain rfl : key = "posts" := String.toList_inj.mp (of_decide_eq_true hkey)
    obtain rfl := of_decide_eq_true hi
    have hall : ∀ vs ∈ (Record.listOf (document nulls) "posts").toOption, ∀ v ∈ vs[1]?,
        Record.isComplete Record.postFields v = false := by
      simp only [document, nulls]
      delta postsExport
      repeat rw [String.toList_ofList]
      decide +kernel
    exact Or.inl ⟨rfl, hall vs (by rw [hvs]; rfl) v hv⟩
  have hnull : (document untimed).HasNullTime := by
    let posts := (Record.listOf (document untimed) "posts").toOption.getD []
    refine ⟨"posts", 0, posts.headD .null, ⟨posts, ?_, ?_⟩, ?_, Or.inr (Or.inr (Or.inl ⟨rfl, ?_⟩))⟩
    all_goals
      simp only [posts, document, untimed]
      delta postsExport
      repeat rw [String.toList_ofList]
      decide +kernel
  refine ⟨?_, ?_, ?_⟩
  · refine (importExport_nulls sampleStore (fun _ _ _ => true) hread).1 _ false ?_
    simp only [document, nulls]
    delta postsExport
    repeat rw [String.toList_ofList]
    decide +kernel
  · refine (importExport_nulls sampleStore second hread).2.1 _ false ?_ (Or.inr hskipped)
    simp only [document, nulls]
    delta postsExport
    repeat rw [String.toList_ofList]
    decide +kernel
  · exact (importExport_nulls sampleStore second huntimed).2.2 hnull

/-- A null for the start of a thread is stored as the name of a post, and one for the time of deletion
stops the import; without the fields, neither happens. -/
theorem null_is_not_absent :
    (Json.read (postsExport ", \"root_id\": null" "").unifyNewlines).map
        (Json.dropNulls fun _ _ _ => true) = Json.read (postsExport "" "").unifyNewlines ∧
      (Json.read (postsExport ", \"delete_at\": null" "").unifyNewlines).map
        (Json.dropNulls fun _ _ _ => true) = Json.read (postsExport "" "").unifyNewlines ∧
      (importExport {} (postsExport ", \"root_id\": null" "") false).2.store.posts.map (·.rootId) =
        ["None".toList] ∧
      (importExport {} (postsExport ", \"delete_at\": null" "") false).1 =
        .error (.conversion (.notANumber "NoneType".toList)) ∧
      (importExport {} (postsExport "" "") false).1 = .ok { total := 2, skipped := 1, imported := 1 } ∧
      (importExport {} (postsExport "" "") false).2.store.posts.map (·.rootId) = [[]] := by
  delta postsExport
  -- Long texts are slow to evaluate, their letters are not.
  repeat rw [String.toList_ofList]
  decide +kernel

end ChannelSearch
