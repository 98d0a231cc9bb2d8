import ChannelSearch.Request.Fields
import Mathlib.Data.List.Basic
import Mathlib.Tactic.Common

/-!
Requests read from their own fields. Main statement: a request is read back from any list of its fields
that leaves out only fields that are as in an empty request.
-/

namespace ChannelSearch.SearchRequest

variable {r s given : SearchRequest}

theorem Field.ofName?_name (f : Field) : ofName? f.name = some f := by
  cases f <;> decide

@[simp] theorem readList_texts (ts : List Text) : readList (.array (ts.map .text)) = .ok ts := by
  cases ts with
  | nil => rfl
  | cons t ts =>
    simp [readList, Json.isTruthy, Json.elements, Except.mapError, Except.map, Json.shown,
      Function.comp_def]

@[simp] theorem readOffset_int (n : Int) : readOffset (.int n) = .ok n := by
  by_cases h : n = 0 <;> simp [readOffset, Json.isTruthy, Json.toInteger, Except.mapError, h]

/-- The request with one field as in another one. -/
def copy (r given : SearchRequest) : Field → SearchRequest
  | .terms => { r with terms := given.terms }
  | .excludedTerms => { r with excludedTerms := given.excludedTerms }
  | .phrases => { r with phrases := given.phrases }
  | .excludedPhrases => { r with excludedPhrases := given.excludedPhrases }
  | .isHashtag => { r with isHashtag := given.isHashtag }
  | .orTerms => { r with orTerms := given.orTerms }
  | .inChannels => { r with inChannels := given.inChannels }
  | .excludedChannels => { r with excludedChannels := given.excludedChannels }
  | .fromUsers => { r with fromUsers := given.fromUsers }
  | .excludedUsers => { r with excludedUsers := given.excludedUsers }
  | .onDate => { r with onDate := given.onDate }
  | .afterDate => { r with afterDate := given.afterDate }
  | .beforeDate => { r with beforeDate := given.beforeDate }
  | .timeZoneOffset => { r with timeZoneOffset := given.timeZoneOffset }
  | .includeDeletedChannels => { r with includeDeletedChannels := given.includeDeletedChannels }
  | .searchWithoutUserId => { r with searchWithoutUserId := given.searchWithoutUserId }
  | .extensions => { r with extensions := given.extensions }

theorem get_copy (r given : SearchRequest) (f g : Field) :
    (r.copy given f).get g = if g = f then given.get g else r.get g := by
  cases f <;> cases g <;> rfl

/-- Requests are the same when all their fields are. -/
theorem eq_of_get (h : ∀ f, r.get f = s.get f) : r = s := by
  have htexts {ts us : List Text} (heq : Json.array (ts.map .text) = .array (us.map .text)) : ts = us := by
    apply List.map_injective_iff.mpr _ (Json.array.inj heq)
    intro t u htext
    exact Json.text.inj htext
  cases r
  cases s
  simp only [SearchRequest.mk.injEq]
  exact ⟨Json.text.inj (h .terms), Json.text.inj (h .excludedTerms), htexts (h .phrases),
    htexts (h .excludedPhrases), Json.bool.inj (h .isHashtag), Json.bool.inj (h .orTerms),
    htexts (h .inChannels), htexts (h .excludedChannels), htexts (h .fromUsers),
    htexts (h .excludedUsers), Json.text.inj (h .onDate), Json.text.inj (h .afterDate),
    Json.text.inj (h .beforeDate), Json.int.inj (h .timeZoneOffset),
    Json.bool.inj (h .includeDeletedChannels), Json.bool.inj (h .searchWithoutUserId),
    htexts (h .extensions)⟩

theorem set_get (r given : SearchRequest) (f : Field) :
    r.set f (given.get f) = .ok (r.copy given f) := by
  cases f <;> simp [set, get, copy, readText, readFlag, Json.shown, bind, Except.bind, pure, Except.pure]

theorem foldlM_setNamed (fs : List Field) (r given : SearchRequest) :
    (fs.map fun f => (f.name, given.get f)).foldlM setNamed r =
      .ok (fs.foldl (fun r f => r.copy given f) r) := by
  induction fs generalizing r with
  | nil => rfl
  | cons f fs ih =>
    have hfirst : r.setNamed (f.name, given.get f) = .ok (r.copy given f) := by
      simp only [setNamed, Field.ofName?_name, set_get]
    rw [List.map_cons, List.foldlM_cons, hfirst, List.foldl_cons]
    exact ih (r.copy given f)

theorem get_foldl_copy (fs : List Field) (r given : SearchRequest)
    (h : ∀ f ∉ fs, given.get f = r.get f) (g : Field) :
    (fs.foldl (fun r f => r.copy given f) r).get g = given.get g := by
  induction fs generalizing r with
  | nil => exact (h g List.not_mem_nil).symm
  | cons f fs ih =>
    apply ih
    intro k hk
    rw [get_copy]
    split_ifs with hkf
    · rfl
    · apply h
      simp [hkf, hk]

/-- A request is read back from its fields. -/
theorem ofFields_get (fs : List Field) (h : ∀ f ∉ fs, given.get f = ({} : SearchRequest).get f) :
    ofFields (fs.map fun f => (f.name, given.get f)) = .ok given := by
  have hknown : ((fs.map fun f => (f.name, given.get f)).map (·.1)).filter
      (fun name => (Field.ofName? name).isNone) = [] := by
    simp [Field.ofName?_name]
  unfold ofFields
  rw [hknown]
  dsimp only
  rw [List.isEmpty_nil, if_pos rfl, foldlM_setNamed, eq_of_get (get_foldl_copy fs {} given h)]

end ChannelSearch.SearchRequest
