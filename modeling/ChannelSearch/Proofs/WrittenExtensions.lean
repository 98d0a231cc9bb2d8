import ChannelSearch.Proofs.ChannelAccess
import ChannelSearch.Proofs.FileSearch
import ChannelSearch.Proofs.LowerForms
import ChannelSearch.Proofs.StoreRows

/-!
Searches by the extensions that were written. Main statement: after any writes, a live file in an open
channel is on some page of the search for its extension, unless the extension was given to it with a
point at its start.
-/

namespace ChannelSearch

open Text

namespace Text

theorem not_mem_of_afterLast?_eq_none {mark : Char} {t : Text} (h : t.afterLast? mark = none) :
    mark ∉ t := by
  induction t with
  | nil => exact List.not_mem_nil
  | cons c rest ih =>
    rw [afterLast?] at h
    cases hrest : afterLast? mark rest with
    | some after =>
      rw [hrest] at h
      cases h
    | none =>
      rw [hrest] at h
      have hc : mark ≠ c := by
        rintro rfl
        simp at h
      exact List.not_mem_cons_of_ne_of_not_mem hc (ih hrest)

/-- What follows the last mark has none. -/
theorem not_mem_afterLast? {mark : Char} {t after : Text} (h : t.afterLast? mark = some after) :
    mark ∉ after := by
  induction t with
  | nil => cases h
  | cons c rest ih =>
    rw [afterLast?] at h
    cases hrest : afterLast? mark rest with
    | some later =>
      rw [hrest] at h
      exact ih (hrest.trans h)
    | none =>
      rw [hrest] at h
      dsimp only at h
      split_ifs at h
      exact Option.some.inj h ▸ not_mem_of_afterLast?_eq_none hrest

end Text

/-- An extension is looked up in lower case, without the points at its start. -/
theorem extensionKey_eq (e : Text) : extensionKey e = e.lower.dropWhile (· = '.') :=
  isCaseless_point.lower_dropWhile e

/-- The letter case of an extension does not matter to the search, nor does its point. -/
theorem extensionKey_eq_of_folded {v e : Text}
    (h : v.folded = e.folded ∨ v.folded = folded ('.' :: e)) : extensionKey v = extensionKey e := by
  rcases h with h | h
  · rw [extensionKey_eq, extensionKey_eq, lower_eq_of_folded h]
  · rw [extensionKey_eq, lower_eq_of_folded h, ← extensionKey_eq, extensionKey, extensionKey,
      List.dropWhile_cons_of_pos (by simp)]

/-- An extension is looked up as it is stored, unless it starts with a point. -/
theorem lower_eq_extensionKey {e : Text} : e.lower = extensionKey e ↔ e.head? ≠ some '.' := by
  cases e with
  | nil => exact iff_of_true rfl nofun
  | cons c rest =>
    by_cases hc : c = '.'
    · subst hc
      refine iff_of_false (fun h => ?_) (fun h => h rfl)
      rw [isCaseless_point.lower_cons, extensionKey_eq] at h
      have hhead := List.head?_dropWhile_not (· = '.') (lower ('.' :: rest))
      rw [← h] at hhead
      simp at hhead
    · refine iff_of_true ?_ (by simpa using hc)
      rw [extensionKey, List.dropWhile_cons_of_neg (by simpa using hc)]

variable {s : Store} {lookup : Lookup} {c : SearchContext} {v : Text} {offset : Int}

/-- Live files of an extension, in the channels that are open to the user. -/
def Store.filesWith (s : Store) (user team extension : Text) : List FileInfo :=
  s.files.filter fun f =>
    f.deleteAt = 0 ∧ f.extension = extension ∧ s.IsOpenTo user team f.channelId

/-- A request for an extension, and for nothing else. -/
def SearchRequest.ofExtension (v : Text) (offset : Int) : SearchRequest :=
  { extensions := [v], timeZoneOffset := offset }

theorem askNothing_ofExtension : (FileTexts.ofRequests [.ofExtension v offset]).AskNothing :=
  FileTexts.askNothing_nil

theorem inFileLimits_ofExtension (hcancel : c.cancellation = .never)
    (hoffset : c.pageNumber * c.limit < 2 ^ 63) : c.InFileLimits [.ofExtension v offset] := by
  have hnone : FileQuery.textCondition? [.ofExtension v offset] false = none :=
    FileQuery.textCondition?_eq_none.mpr askNothing_ofExtension
  have hdates : (SearchRequest.ofExtension v offset).DatesFit c.now := by
    refine ⟨fun h => ?_, absurd rfl, fun _ => absurd rfl, fun _ => absurd rfl⟩
    simp [SearchRequest.ofExtension] at h
  refine ⟨hcancel, hoffset, hdates, fun x hx => ?_, fun x hx => ?_⟩
  · exact nomatch hnone ▸ hx
  · exact nomatch hnone ▸ hx

/-- A search for an extension finds the files that are stored with it. -/
theorem Store.foundFiles_ofExtension :
    s.foundFiles lookup c [.ofExtension v offset] =
      s.filesWith c.userId c.teamId (extensionKey v) := by
  apply List.filter_congr
  intro f _
  rw [decide_eq_decide, List.headD_cons, sees_iff_isOpenTo ⟨rfl, rfl⟩ rfl rfl]
  constructor
  · rintro ⟨h, hopen⟩
    exact ⟨h.live, List.mem_singleton.mp (h.extension (List.cons_ne_nil _ _)), hopen⟩
  · rintro ⟨hlive, hextension, hopen⟩
    refine ⟨⟨hlive, ?_, ?_, fun _ => List.mem_singleton.mpr hextension,
      askNothing_ofExtension.match_any _ f⟩, hopen⟩
    · simp [SearchRequest.ofExtension]
    · exact ⟨absurd rfl, fun _ => absurd rfl, fun _ => absurd rfl⟩

/-- The pages of a search for an extension, as far as the store can count. -/
theorem searchFiles_ofExtension (hcancel : c.cancellation = .never) {page : Int}
    (hpage : max page 0 * c.limit < 2 ^ 63) :
    (searchFiles s.reader lookup { c with page } [.ofExtension v offset]).result =
      .ok { rows := (((newestFirst FileInfo.createAt
              (s.filesWith c.userId c.teamId (extensionKey v))).drop
                (max page 0 * c.limit).toNat).take c.limit.toNat).map FileInfo.row
            page := max page 0
            perPage := c.limit } := by
  have hlimits : { c with page }.InFileLimits [.ofExtension v offset] :=
    inFileLimits_ofExtension hcancel hpage
  have hask : FileQuery.Asks [.ofExtension v offset] :=
    FileQuery.asks_cons.mpr (Or.inr (Or.inr (List.cons_ne_nil _ _)))
  have hfound : s.foundFiles lookup { c with page } [.ofExtension v offset] =
      s.filesWith c.userId c.teamId (extensionKey v) := Store.foundFiles_ofExtension
  rw [← hfound]
  exact searchFiles_found hlimits hask

/-- The rows on the pages of a search for an extension are those of the files that have it. A table has
at most as many rows as the store can count. -/
theorem exists_page_ofExtension (hcancel : c.cancellation = .never)
    (hrows : s.files.length ≤ 2 ^ 63) {row : FileRow} :
    (∃ (page : Int) (found : Page FileRow), max page 0 * c.limit < 2 ^ 63 ∧
      (searchFiles s.reader lookup { c with page } [.ofExtension v offset]).result = .ok found ∧
        row ∈ found.rows) ↔
      ∃ f ∈ s.filesWith c.userId c.teamId (extensionKey v), f.row = row := by
  generalize hfiles : s.filesWith c.userId c.teamId (extensionKey v) = files
  have hmem (f : FileInfo) : f ∈ newestFirst FileInfo.createAt files ↔ f ∈ files :=
    (newestFirst_perm _ _).mem_iff
  constructor
  · rintro ⟨page, found, hpage, hresult, hrow⟩
    rw [searchFiles_ofExtension hcancel hpage, hfiles] at hresult
    obtain rfl := Except.ok.inj hresult
    obtain ⟨f, hf, rfl⟩ := List.mem_map.mp hrow
    exact ⟨f, (hmem f).mp (List.mem_of_mem_drop (List.mem_of_mem_take hf)), rfl⟩
  · rintro ⟨f, hf, rfl⟩
    have hlimit : 0 < c.limit.toNat := by
      have hbounds := c.limit_bounds
      omega
    obtain ⟨n, hn, hslice⟩ := exists_page_of_mem ((hmem f).mpr hf) hlimit
    have hstart : max (n : Int) 0 * c.limit = (n * c.limit.toNat : Nat) := by
      rw [max_eq_left (Int.natCast_nonneg n), Nat.cast_mul, Int.toNat_of_nonneg c.limit_bounds.1.le]
    have hcount : n * c.limit.toNat < 2 ^ 63 := by
      rw [(newestFirst_perm _ _).length_eq, ← hfiles] at hn
      exact hn.trans_le ((List.length_filter_le _ _).trans hrows)
    have hoffset : max (n : Int) 0 * c.limit < 2 ^ 63 := by
      rw [hstart]
      exact_mod_cast hcount
    refine ⟨n, _, hoffset, searchFiles_ofExtension hcancel hoffset, ?_⟩
    rw [hfiles, hstart, Int.toNat_natCast]
    exact List.mem_map_of_mem hslice

/-- The extension that is stored with a file: the given one, or else what follows the last point of its
name, in lower case. -/
theorem FileInfo.extension_stored {f : FileInfo} {e : Text} (he : e ≠ [])
    (h : f.extension = e ∨ f.extension = [] ∧ f.name.afterLast? '.' = some e) :
    f.stored.extension = e.lower ∧ (e.head? ≠ some '.' ↔ f.extension.head? ≠ some '.') := by
  rcases h with rfl | ⟨hnone, hname⟩
  · have hgiven : f.extension.isEmpty = false := List.isEmpty_eq_false_iff.mpr he
    refine ⟨?_, Iff.rfl⟩
    show Store.storedExtension f.extension f.name = _
    rw [Store.storedExtension, hgiven]
    rfl
  · constructor
    · show Store.storedExtension f.extension f.name = _
      rw [Store.storedExtension, hnone, hname]
      rfl
    · refine iff_of_true (fun hhead => ?_) (by simp [hnone])
      exact not_mem_afterLast? hname (List.mem_of_mem_head? hhead)

/-- Extensions that were written can be searched for. After writes in any order, with refused ones among
them, a live file in a channel that is open to the user is on some page of the search for its
extension, in any case of its ASCII letters and with or without a point before it, if and only if the
extension was not given with a point at its start. A table has at most as many rows as the store can
count. -/
theorem written_extensions_are_found (ws : List Write) {f : FileInfo} {e v : Text}
    (hlast : Store.lastWrite? {} ws (.file f.id) = some (.file f)) (hlive : f.deleteAt = 0)
    (he : e ≠ []) (hext : f.extension = e ∨ f.extension = [] ∧ f.name.afterLast? '.' = some e)
    (hv : v.folded = e.folded ∨ v.folded = folded ('.' :: e)) {c : SearchContext}
    (hcancel : c.cancellation = .never)
    (hopen : (Store.writeAll {} ws).IsOpenTo c.userId c.teamId f.channelId)
    (hrows : (Store.writeAll {} ws).files.length ≤ 2 ^ 63) (lookup : Lookup) (offset : Int) :
    (∃ (page : Int) (found : Page FileRow), max page 0 * c.limit < 2 ^ 63 ∧
      (searchFiles (Store.writeAll {} ws).reader lookup { c with page }
        [.ofExtension v offset]).result = .ok found ∧ f.stored.row ∈ found.rows) ↔
      f.extension.head? ≠ some '.' := by
  have hstored : f.stored ∈ (Store.writeAll {} ws).files :=
    Store.holds_of_lastWrite (w := .file f) hlast
  generalize Store.writeAll {} ws = s at hstored hopen hrows ⊢
  obtain ⟨hextension, hhead⟩ := FileInfo.extension_stored he hext
  rw [exists_page_ofExtension hcancel hrows, ← hhead, ← lower_eq_extensionKey, ← hextension,
    ← extensionKey_eq_of_folded hv]
  constructor
  · rintro ⟨g, hg, hrow⟩
    have hsame : g.extension = f.stored.extension := congrArg FileRow.extension hrow
    rw [← hsame]
    exact (of_decide_eq_true (List.mem_filter.mp hg).2).2.1
  · intro hfound
    exact ⟨f.stored, List.mem_filter.mpr ⟨hstored, decide_eq_true ⟨hlive, hfound, hopen⟩⟩, rfl⟩

/-- A file that is written twice, with the extension of its name, among files that fill the first
page. -/
theorem written_extensions_are_found_draft :
    let file (id name : String) (createAt : Int) : FileInfo :=
      { id := id.toList, channelId := "C1".toList, creatorId := "u2".toList, name := name.toList
        createAt }
    let draft : FileInfo := file "f1" "Q3.draft.ÄPdf" 1000
    let ws : List Write :=
      [.channel { id := "C1".toList, name := "town".toList }, .channelMember ⟨"C1".toList, "u1".toList⟩,
        .file (file "f1" "Q3.txt" 0), .file draft, .file { draft with createAt := 2 ^ 63 },
        .file (file "f2" "a.äpdf" 2000), .file (file "f3" "b.äpdf" 3000)]
    let c : SearchContext := { userId := "u1".toList, teamId := "T1".toList, perPage := 1, now := 0 }
    ∃ (page : Int) (found : Page FileRow),
      (searchFiles (Store.writeAll {} ws).reader {} { c with page }
        [.ofExtension ".ÄpDF".toList 0]).result = .ok found ∧
        draft.stored.row ∈ found.rows := by
  intro file draft ws c
  have hopen : (Store.writeAll {} ws).IsOpenTo c.userId c.teamId draft.channelId := by decide +kernel
  have hrows : (Store.writeAll {} ws).files.length = 3 := by decide +kernel
  obtain ⟨page, found, -, hresult, hrow⟩ :=
    (@written_extensions_are_found ws draft "ÄPdf".toList ".ÄpDF".toList (by decide +kernel) rfl
      (by decide) (by decide) (by decide) c rfl hopen (by omega) {} 0).mpr (by decide)
  exact ⟨page, found, hresult, hrow⟩

/-- An extension that is given with its point is on no page of the search for it. -/
theorem extension_given_with_point_is_missed :
    let f : FileInfo :=
      { id := "f1".toList, channelId := "C1".toList, creatorId := "u1".toList
        name := "report".toList, extension := ".PDF".toList, createAt := 1000 }
    let ws : List Write :=
      [.channel { id := "C1".toList, name := "town".toList }, .channelMember ⟨"C1".toList, "u1".toList⟩,
        .file f]
    let c : SearchContext := { userId := "u1".toList, teamId := [], now := 0 }
    Store.lastWrite? {} ws (.file f.id) = some (.file f) ∧
      (Store.writeAll {} ws).IsOpenTo c.userId c.teamId f.channelId ∧
      ∀ v ∈ [".PDF".toList, ".pdf".toList, "..PDF".toList], ∀ page : Int, max page 0 * 60 < 2 ^ 63 →
        (searchFiles (Store.writeAll {} ws).reader {} { c with page } [.ofExtension v 0]).result =
          .ok { rows := [], page := max page 0, perPage := 60 } := by
  intro f ws c
  have hnone : ∀ v ∈ [".PDF".toList, ".pdf".toList, "..PDF".toList],
      (Store.writeAll {} ws).filesWith c.userId c.teamId (extensionKey v) = [] := by
    decide +kernel
  refine ⟨by decide +kernel, by decide +kernel, fun v hv page hpage => ?_⟩
  have hresult := @searchFiles_ofExtension (Store.writeAll {} ws) {} c v 0 rfl page hpage
  rw [hresult, hnone v hv]
  simp
  rfl

end ChannelSearch
