import ChannelSearch.Proofs.RequestFields
import ChannelSearch.Proofs.SearchRuns

/-!
Requests read from named fields. Main statement: a mapping is refused for its names exactly when some name
is that of no field, its request is the same in each order of the names, and a request is what its fields
are read as.
-/

namespace ChannelSearch.SearchRequest

variable {r s : SearchRequest} {given : List (Text × Json)}

namespace Field

theorem ofName?_eq_some {name : Text} {f : Field} : ofName? name = some f ↔ f.name = name := by
  constructor
  · intro h
    simpa using List.find?_some h
  · rintro rfl
    exact ofName?_name f

theorem ofName?_eq_none {name : Text} : ofName? name = none ↔ ∀ f : Field, f.name ≠ name := by
  simp only [Option.eq_none_iff_forall_ne_some, ne_eq, ofName?_eq_some]

theorem name_injective : Function.Injective name := by
  intro f g h
  exact Option.some.inj (by rw [← ofName?_name f, h, ofName?_name])

/-- What a value is read as for a field. -/
def read (f : Field) (value : Json) : Except RequestError Json :=
  (({} : SearchRequest).set f value).map fun r => r.get f

end Field

/-- A field is read without regard to the others. -/
theorem set_eq (r : SearchRequest) (f : Field) (value : Json) :
    r.set f value = (({} : SearchRequest).set f value).map fun given => r.copy given f := by
  cases f with
  | terms | excludedTerms | onDate | afterDate | beforeDate => rfl
  | phrases | excludedPhrases | inChannels | excludedChannels | fromUsers | excludedUsers | extensions =>
    unfold set
    cases readList value <;> rfl
  | isHashtag | orTerms | includeDeletedChannels | searchWithoutUserId =>
    unfold set
    cases readFlag _ value <;> rfl
  | timeZoneOffset =>
    unfold set
    cases readOffset value <;> rfl

/-- A step gives its field what the value is read as and leaves the others. -/
theorem set_eq_ok {f : Field} {value : Json} :
    r.set f value = .ok s ↔ f.read value = .ok (s.get f) ∧ ∀ g ≠ f, s.get g = r.get g := by
  rw [set_eq, Field.read, map_eq_ok, map_eq_ok]
  constructor
  · rintro ⟨given, hgiven, rfl⟩
    refine ⟨⟨given, hgiven, ?_⟩, fun g hg => ?_⟩
    · rw [get_copy, if_pos rfl]
    · rw [get_copy, if_neg hg]
  · rintro ⟨⟨given, hgiven, hf⟩, hothers⟩
    refine ⟨given, hgiven, eq_of_get fun g => ?_⟩
    rw [get_copy]
    split_ifs with hg
    · rw [hg, hf]
    · exact (hothers g hg).symm

/-- A request has from another one what the given fields are read as, and the rest as it was. -/
def IsReadFrom (given : List (Text × Json)) (r s : SearchRequest) : Prop :=
  ∀ f : Field, (∀ value, (f.name, value) ∈ given → f.read value = .ok (s.get f)) ∧
    ((∀ value, (f.name, value) ∉ given) → s.get f = r.get f)

theorem isReadFrom_nil : IsReadFrom [] r s ↔ r = s := by
  constructor
  · intro h
    exact eq_of_get fun f => ((h f).2 fun _ => List.not_mem_nil).symm
  · rintro rfl f
    exact ⟨fun _ h => absurd h List.not_mem_nil, fun _ => rfl⟩

/-- The first field is read, and then the others, when no other has its name. -/
theorem isReadFrom_cons {f : Field} {value : Json} (h : f.name ∉ given.map (·.1)) :
    IsReadFrom ((f.name, value) :: given) r s ↔ ∃ m, r.set f value = .ok m ∧ IsReadFrom given m s := by
  have hlater (v : Json) : (f.name, v) ∉ given := fun hv => h (List.mem_map_of_mem hv)
  have hother {g : Field} (hg : g ≠ f) (v : Json) :
      (g.name, v) ∈ (f.name, value) :: given ↔ (g.name, v) ∈ given := by
    rw [List.mem_cons, Prod.mk.injEq, or_iff_right]
    exact fun heq => hg (Field.name_injective heq.1)
  constructor
  · intro hread
    have hf : f.read value = .ok (s.get f) := (hread f).1 value List.mem_cons_self
    refine ⟨r.copy s f, set_eq_ok.mpr ⟨?_, fun g hg => ?_⟩, fun g => ?_⟩
    · rw [get_copy, if_pos rfl, hf]
    · rw [get_copy, if_neg hg]
    · rw [get_copy]
      split_ifs with hg
      · subst hg
        exact ⟨fun v hv => absurd hv (hlater v), fun _ => rfl⟩
      · simpa only [hother hg] using hread g
  · rintro ⟨m, hm, hread⟩ g
    obtain ⟨hf, hothers⟩ := set_eq_ok.mp hm
    by_cases hg : g = f
    · subst hg
      have hkept : s.get g = m.get g := (hread g).2 hlater
      refine ⟨fun v hv => ?_, fun habsent => absurd List.mem_cons_self (habsent value)⟩
      obtain heq | hv := List.mem_cons.mp hv
      · rw [(Prod.mk.inj heq).2, hkept, hf]
      · exact absurd hv (hlater v)
    · simpa only [hother hg, hothers g hg] using hread g

theorem foldlM_setNamed_eq_ok (hnames : ∀ g ∈ given, ∃ f : Field, f.name = g.1)
    (h : (given.map (·.1)).Nodup) : given.foldlM setNamed r = .ok s ↔ IsReadFrom given r s := by
  induction given generalizing r with
  | nil =>
    rw [isReadFrom_nil]
    exact Except.ok.injEq r s ▸ Iff.rfl
  | cons g given ih =>
    obtain ⟨⟨f, hf⟩, hrest⟩ := List.forall_mem_cons.mp hnames
    obtain ⟨name, value⟩ := g
    obtain rfl : f.name = name := hf
    obtain ⟨hfresh, hnodup⟩ := List.nodup_cons.mp h
    have hfirst : r.setNamed (f.name, value) = r.set f value := by
      simp only [setNamed, Field.ofName?_name]
    rw [isReadFrom_cons hfresh, List.foldlM_cons, hfirst, bind_eq_ok]
    simp only [ih hrest hnodup]

section Errors

variable {names : List Text} {value : Json}

theorem readList_ne_unknownFilters : readList value ≠ .error (.unknownFilters names) := by
  unfold readList
  split
  · nofun
  · split_ifs
    · cases value.elements <;> nofun
    · nofun

theorem readFlag_ne_unknownFilters {name : Text} : readFlag name value ≠ .error (.unknownFilters names) := by
  unfold readFlag
  split
  case h_4 => split_ifs <;> nofun
  all_goals nofun

theorem readOffset_ne_unknownFilters : readOffset value ≠ .error (.unknownFilters names) := by
  unfold readOffset
  split_ifs
  · cases value.toInteger <;> nofun
  · nofun

/-- A value is never refused for the name of its field. -/
theorem set_ne_unknownFilters {f : Field} : r.set f value ≠ .error (.unknownFilters names) := by
  have hpure {α : Type} {x : Except RequestError α} {make : α → SearchRequest}
      (hx : x ≠ .error (.unknownFilters names)) :
      (x >>= fun a => pure (make a)) ≠ .error (.unknownFilters names) := by
    cases x with
    | ok a => nofun
    | error e => exact fun h => hx (congrArg Except.error (Except.error.inj h))
  cases f with
  | terms | excludedTerms | onDate | afterDate | beforeDate => nofun
  | phrases | excludedPhrases | inChannels | excludedChannels | fromUsers | excludedUsers | extensions =>
    exact hpure readList_ne_unknownFilters
  | isHashtag | orTerms | includeDeletedChannels | searchWithoutUserId =>
    exact hpure readFlag_ne_unknownFilters
  | timeZoneOffset => exact hpure readOffset_ne_unknownFilters

theorem foldlM_setNamed_ne_unknownFilters (hnames : ∀ g ∈ given, ∃ f : Field, f.name = g.1) :
    given.foldlM setNamed r ≠ .error (.unknownFilters names) := by
  induction given generalizing r with
  | nil => nofun
  | cons g given ih =>
    obtain ⟨⟨f, hf⟩, hnames⟩ := List.forall_mem_cons.mp hnames
    have hfirst : r.setNamed g = r.set f g.2 := by
      simp only [setNamed, ← hf, Field.ofName?_name]
    rw [List.foldlM_cons, hfirst]
    cases hset : r.set f g.2 with
    | ok m => exact ih hnames
    | error e =>
      intro h
      exact set_ne_unknownFilters (hset.trans (congrArg Except.error (Except.error.inj h)))

end Errors

/-- The names are looked at first, and then the values. -/
theorem ofFields_eq (given : List (Text × Json)) :
    (∀ g ∈ given, ∃ f : Field, f.name = g.1) ∧ ofFields given = given.foldlM setNamed {} ∨
      (∃ g ∈ given, ∀ f : Field, f.name ≠ g.1) ∧ ∃ names, ofFields given = .error (.unknownFilters names) := by
  have hunknown : ((given.map (·.1)).filter fun name => (Field.ofName? name).isNone) = [] ↔
      ∀ g ∈ given, ∃ f : Field, f.name = g.1 := by
    simp only [List.filter_eq_nil_iff, List.forall_mem_map, Option.isNone_iff_eq_none,
      Field.ofName?_eq_none, not_forall, not_not]
  unfold ofFields
  dsimp only
  simp only [List.isEmpty_iff]
  by_cases h : ∀ g ∈ given, ∃ f : Field, f.name = g.1
  · exact .inl ⟨h, if_pos (hunknown.mpr h)⟩
  · refine .inr ⟨?_, _, if_neg (mt hunknown.mp h)⟩
    simpa only [not_forall, not_exists, exists_prop] using h

/-- A mapping is refused for its names exactly when one of them is that of no field, whatever the values.
Otherwise its request has what the values are read as, and the fields that are not given are as in an empty
request. So the order of the names has no part in it, and a request is read back from its fields. -/
theorem ofFields_normalizes (h : (given.map (·.1)).Nodup) :
    ((∃ names, ofFields given = .error (.unknownFilters names)) ↔ ∃ g ∈ given, ∀ f : Field, f.name ≠ g.1) ∧
      (∀ r, ofFields given = .ok r ↔
        (∀ g ∈ given, ∃ f : Field, f.name = g.1) ∧ IsReadFrom given {} r) ∧
      (∀ other, other.Perm given → ∀ r, ofFields other = .ok r ↔ ofFields given = .ok r) ∧
      (∀ r, ofFields given = .ok r → ofFields r.fields = .ok r) := by
  have hread {given : List (Text × Json)} (h : (given.map (·.1)).Nodup) (r : SearchRequest) :
      ofFields given = .ok r ↔ (∀ g ∈ given, ∃ f : Field, f.name = g.1) ∧ IsReadFrom given {} r := by
    obtain ⟨hnames, hfold⟩ | ⟨hunknown, names, herror⟩ := ofFields_eq given
    · rw [hfold, foldlM_setNamed_eq_ok hnames h]
      exact (and_iff_right hnames).symm
    · obtain ⟨g, hg, hno⟩ := hunknown
      rw [herror]
      refine iff_of_false nofun fun hall => ?_
      obtain ⟨f, hf⟩ := hall.1 g hg
      exact hno f hf
  refine ⟨?_, hread h, fun other hperm r => ?_, fun r _ => ?_⟩
  · obtain ⟨hnames, hfold⟩ | ⟨hunknown, hrefused⟩ := ofFields_eq given
    · rw [hfold]
      refine iff_of_false (fun ⟨names, herror⟩ => foldlM_setNamed_ne_unknownFilters hnames herror) ?_
      rintro ⟨g, hg, hno⟩
      obtain ⟨f, hf⟩ := hnames g hg
      exact hno f hf
    · exact iff_of_true hrefused hunknown
  · rw [hread h, hread ((hperm.map (·.1)).nodup_iff.mpr h)]
    simp only [IsReadFrom, hperm.mem_iff]
  · exact ofFields_get Field.all fun f hf => absurd (by cases f <;> decide) hf

/-- A text as a list, an object as the list of its keys, a truth value and a number as texts, and a name that
is no field. -/
theorem ofFields_normalizes_mixed :
    let given : List (Text × Json) :=
      [("phrases".toList, .text "a b".toList),
        ("in_channels".toList, .object [("C1".toList, .null), ("C2".toList, .int 0)]),
        ("or_terms".toList, .text " On ".toList), ("time_zone_offset".toList, .text " +1_0 ".toList),
        ("terms".toList, .null)]
    let r : SearchRequest :=
      { phrases := ["a b".toList], inChannels := ["C1".toList, "C2".toList], orTerms := true,
        timeZoneOffset := 10 }
    ("channel_ids".toList :: given.map (·.1)).Nodup ∧ ofFields given.reverse = .ok r ∧
      ofFields r.fields = .ok r ∧
        ∃ names, ofFields (("channel_ids".toList, .null) :: given) = .error (.unknownFilters names) := by
  intro given r
  have hnodup : (("channel_ids".toList, Json.null) :: given).map (·.1) |>.Nodup := by decide +kernel
  have hr : ofFields given = .ok r := rfl
  obtain ⟨-, -, horder, hagain⟩ := ofFields_normalizes (List.nodup_cons.mp hnodup).2
  refine ⟨hnodup, (horder _ given.reverse_perm r).mpr hr, hagain r hr, ?_⟩
  refine (ofFields_normalizes hnodup).1.mpr ⟨_, List.mem_cons_self, fun f => ?_⟩
  cases f <;> decide

end ChannelSearch.SearchRequest
