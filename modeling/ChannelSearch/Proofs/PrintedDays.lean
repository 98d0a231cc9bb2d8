import ChannelSearch.Proofs.BuiltQueries
import ChannelSearch.Proofs.ChannelAccess
import ChannelSearch.Proofs.DateTiling
import ChannelSearch.Proofs.PrintedLines

/-!
Printed times beside the dates that are searched for. Main statement: every instant inside the bounds of a
day is printed with the text of this day and the minute that it lies in, so the line of every hit of a search
on a day shows the day.
-/

namespace ChannelSearch

/-- A number of four digits needs no zeros in front. -/
theorem Date.paddedNumber_four {n : Nat} (h : 1000 ≤ n) : paddedNumber 4 n = Text.ofNat n := by
  have hlength : 1 ≤ (Text.ofNat (n / 10 / 10 / 10)).length := by
    by_cases hsmall : n / 10 / 10 / 10 < 10
    · rw [Text.ofNat_of_lt hsmall, List.length_singleton]
    · rw [Text.ofNat_of_le (not_lt.mp hsmall), List.length_append, List.length_singleton]
      exact Nat.le_add_left 1 _
  have hdigits : 4 ≤ (Text.ofNat n).length := by
    rw [Text.ofNat_of_le (by omega), Text.ofNat_of_le (by omega : 10 ≤ n / 10),
      Text.ofNat_of_le (by omega : 10 ≤ n / 10 / 10)]
    simp only [List.length_append, List.length_singleton]
    omega
  rw [paddedNumber, Nat.sub_eq_zero_of_le hdigits]
  rfl

theorem Date.paddedNumber_two {n : Nat} (h : n < 100) :
    paddedNumber 2 n = [(n / 10).digitChar, (n % 10).digitChar] := by
  rw [paddedNumber_succ (by decide), paddedNumber_one (by omega)]
  rfl

namespace Moment

/-- Hour and minute of so many minutes of a day, with two digits each. -/
def clock (minutes : Nat) : Text :=
  [(minutes / 60 / 10).digitChar, (minutes / 60 % 10).digitChar, ':', (minutes % 60 / 10).digitChar,
    (minutes % 60 % 10).digitChar]

theorem clock_eq {minutes : Nat} (h : minutes < 1440) :
    clock minutes = Date.paddedNumber 2 (minutes / 60) ++ ':' :: Date.paddedNumber 2 (minutes % 60) := by
  rw [Date.paddedNumber_two (by omega), Date.paddedNumber_two (by omega)]
  rfl

/-- The minute of an instant, counted from the start of its day. -/
def minuteFrom (first t : Int) : Nat := ((t - first) / 60000).toNat

variable {d : Date} {t : Int}

/-- The seconds of a day are those of its text and its minutes. -/
theorem utc_eq (hd : d.IsValid) (hyear : 1000 ≤ d.year) (ht : t / 86400000 = d.dayNumber) :
    utc (t / 1000) = d.iso ++ ' ' :: clock (minuteFrom (dayStart d.dayNumber 0) t) := by
  have hday : Date.ofDayNumber (t / 1000 / 86400) = d := by
    rw [show t / 1000 / 86400 = d.dayNumber by omega, Date.ofDayNumber_dayNumber hd.isReal]
  have hminute : minuteFrom (dayStart d.dayNumber 0) t = (t / 1000 % 86400).toNat / 60 := by
    unfold minuteFrom dayStart
    omega
  have hwritten : Text.ofInt d.year = Date.paddedNumber 4 d.year.toNat := by
    rw [Date.paddedNumber_four (by omega), ← Int.toNat_of_nonneg (by omega : 0 ≤ d.year)]
    rfl
  rw [hminute, clock_eq (by omega), Nat.div_div_eq_div_mul]
  unfold utc
  dsimp only
  rw [hday, hwritten]
  simp only [Date.iso, List.append_assoc, List.cons_append]

/-- An instant of a day is printed with the text of the day and its minute. -/
theorem text_eq (hd : d.IsValid) (hyear : 1000 ≤ d.year) (ht : t / 86400000 = d.dayNumber) :
    text t = .ok (d.iso ++ ' ' :: clock (minuteFrom (dayStart d.dayNumber 0) t)) := by
  rw [text_eq_ok_iff, ← utc_eq hd hyear ht, IsInCalendar, ht]
  exact ⟨hd.inRange, rfl⟩

end Moment

section Rows

variable {reader : Reader} {lookup : Lookup} {c : SearchContext} {s : Store} {requests : List SearchRequest}
  {bounds : Int × Int}

/-- What a condition on a day lets pass lies inside its bounds. -/
theorem between_of_holdsAll {C : Type} {users : UserQuery → List Text} {row : C → Sql.Value} {column : C}
    {millis : Int} (hrow : row column = .int millis) {q : PageQuery C}
    (hmem : .test (.between column bounds.1 bounds.2) ∈ q.conditions)
    (hholds : Condition.holdsAll users row q.conditions = true) :
    bounds.1 ≤ millis ∧ millis ≤ bounds.2 := by
  rw [Condition.holdsAll_eq, List.all_eq_true] at hholds
  simpa [Sql.Test.holds, hrow, Sql.Test.isAtLeast, Sql.Test.isAtMost] using hholds _ hmem

/-- A search on a day reads nothing outside the bounds of the day. -/
theorem posts_onBounds (hreader : s.Serves reader)
    (hon : ∀ r ∈ requests, r.onDate ≠ [] ∧ (r.onBounds c.now).result = .ok bounds)
    {page : Page PostRow} (hpage : (searchPosts reader lookup c requests).result = .ok page)
    {row : PostRow} (hrow : row ∈ page.rows) : bounds.1 ≤ row.createAt ∧ row.createAt ≤ bounds.2 := by
  obtain rfl | ⟨first, rest, q, ids, rows, rfl, hbuilt, -, hrows, rfl⟩ := searchPosts_built hpage
  · cases hrow
  · obtain ⟨hset, hbounds⟩ := hon first List.mem_cons_self
    obtain ⟨dates, hdates, rfl⟩ := PostQuery.eq_of_build? hbuilt
    obtain ⟨p, -, rfl, hholds⟩ :=
      PageQuery.exists_of_mem_read (hreader.posts _ _ hrows) (List.mem_of_mem_filter hrow)
    rw [SearchRequest.dateConditions_of_on hset, Traced.result_bind, hbounds] at hdates
    obtain rfl := Except.ok.inj hdates
    have hcreated : p.values .createAt = .int p.createAt := rfl
    refine between_of_holdsAll hcreated ?_ hholds
    simp [PageQuery.within, PageQuery.filter, PostQuery.ofDates]

theorem files_onBounds (hreader : s.Serves reader)
    (hon : ∀ r ∈ requests, r.onDate ≠ [] ∧ (r.onBounds c.now).result = .ok bounds)
    {page : Page FileRow} (hpage : (searchFiles reader lookup c requests).result = .ok page)
    {row : FileRow} (hrow : row ∈ page.rows) : bounds.1 ≤ row.createAt ∧ row.createAt ≤ bounds.2 := by
  obtain rfl | ⟨first, rest, q, ids, rows, rfl, hbuilt, -, hrows, rfl⟩ := searchFiles_built hpage
  · cases hrow
  · obtain ⟨hset, hbounds⟩ := hon first List.mem_cons_self
    obtain ⟨dates, hdates, rfl⟩ := FileQuery.eq_of_build? hbuilt
    obtain ⟨f, -, rfl, hholds⟩ :=
      PageQuery.exists_of_mem_read (hreader.files _ _ hrows) (List.mem_of_mem_filter hrow)
    rw [SearchRequest.dateConditions_of_on hset, Traced.result_bind, hbounds] at hdates
    obtain rfl := Except.ok.inj hdates
    have hcreated : f.values .createAt = .int f.createAt := rfl
    refine between_of_holdsAll hcreated ?_ hholds
    simp [PageQuery.within, PageQuery.filter, FileQuery.ofDates]

end Rows

namespace Program

open Moment (clock minuteFrom)

/-- A run reads the store it has opened, or fails at each read. -/
theorem serves_of_setUp {w : Workspace} {settings : Settings} {s : Setup}
    (h : (setUp w settings).1 = .ok s) : ∃ store : Store, store.Serves s.reader := by
  unfold setUp at h
  cases hopen : w.openStore settings.storePath with
  | error e => simp [hopen] at h
  | ok store =>
    simp only [hopen] at h
    cases hreplica : settings.replicaPath with
    | none =>
      simp only [hreplica, Except.ok.injEq] at h
      exact ⟨store, h ▸ store.serves_reader⟩
    | some path =>
      simp only [hreplica] at h
      cases hread : (w.saveStore settings.storePath store).openReader path with
      | error e => simp [hread] at h
      | ok reader =>
        simp only [hread, Except.ok.injEq] at h
        subst h
        unfold Workspace.openReader at hread
        split at hread
        · obtain rfl := Except.ok.inj hread
          exact ⟨_, Store.serves_reader _⟩
        · obtain rfl := Except.ok.inj hread
          exact ⟨store, nofun, nofun, nofun⟩
        · cases hread

/-- The text of the search names the day to search on, at no offset from UTC. -/
structure SearchesOn (now : Int) (c : CommandLine.SearchCommand) (d : Date) : Prop where
  offset : c.timeZoneOffset = 0
  given : (SearchBox.Contents.ofText c.query).filters.onDate ≠ []
  day : (searchDate now (SearchBox.Contents.ofText c.query).filters.onDate 0).result = .ok d

variable {now : Int} {c : CommandLine.SearchCommand} {d : Date}

theorem SearchesOn.parse_ne_nil (h : SearchesOn now c d) (offset : Int) :
    SearchBox.parse c.query offset ≠ [] := by
  intro hnil
  have hempty := SearchBox.Contents.requests_eq_nil_iff.mp hnil
  simp [SearchBox.Contents.isEmpty, SearchRequest.hasFilters, h.given] at hempty

/-- Each request of the search has the bounds of the day. -/
theorem SearchesOn.onBounds (h : SearchesOn now c d) {bounds : Int × Int}
    (hbounds : ∀ r : SearchRequest, r.timeZoneOffset = 0 →
      (searchDate now r.onDate 0).result = .ok d → (r.onBounds now).result = .ok bounds) :
    ∀ r ∈ SearchBox.parse c.query 0, r.onDate ≠ [] ∧ (r.onBounds now).result = .ok bounds := by
  intro r hr
  obtain ⟨terms, excludedTerms, isHashtag, rfl⟩ := SearchBox.Contents.exists_of_mem_requests hr
  exact ⟨h.given, hbounds _ rfl h.day⟩

theorem utc_prefix_postText (p : PostRow) : Moment.utc (p.createAt / 1000) ++ "  ".toList <+: postText p := by
  unfold postText
  simp only [List.append_assoc]
  exact ⟨_, List.append_assoc ..⟩

theorem utc_prefix_fileText (f : FileRow) : Moment.utc (f.createAt / 1000) ++ "  ".toList <+: fileText f := by
  unfold fileText
  simp only [List.append_assoc]
  exact ⟨_, List.append_assoc ..⟩

section Lines

variable {α : Type} {createAt : α → Int} {line : α → Except MomentError Text} {text : α → Text}

/-- A run prints the line of each row, and every line begins with the day and the minute in it. -/
structure PrintsOn (r : RunResult) (d : Date) (first last : Int) (rows : List α) (createAt : α → Int)
    (text : α → Text) : Prop where
  succeeds : r.outcome = .ok ()
  output : r.output = lines text rows
  inside : ∀ row ∈ rows, first ≤ createAt row ∧ createAt row ≤ last
  shows : ∀ row ∈ rows,
    d.iso ++ ' ' :: (clock (minuteFrom first (createAt row)) ++ "  ".toList) <+: text row

theorem PrintsPage.printsOn {r : RunResult} {page : Page α} (h : PrintsPage r page createAt text)
    (hd : d.IsValid) (hyear : 1000 ≤ d.year)
    (hinside : ∀ row ∈ page.rows, dayStart d.dayNumber 0 ≤ createAt row ∧
      createAt row ≤ dayStart (d.dayNumber + 1) 0 - 1)
    (htext : ∀ row, Moment.utc (createAt row / 1000) ++ "  ".toList <+: text row) :
    PrintsOn r d (dayStart d.dayNumber 0) (dayStart (d.dayNumber + 1) 0 - 1) page.rows createAt text := by
  have hday : ∀ row ∈ page.rows, createAt row / 86400000 = d.dayNumber := by
    intro row hrow
    have hrow := hinside row hrow
    unfold dayStart at hrow
    omega
  have hcalendar : ∀ row ∈ page.rows, Moment.IsInCalendar (createAt row) := by
    intro row hrow
    rw [Moment.IsInCalendar, hday row hrow]
    exact hd.inRange
  refine ⟨h.succeeds.mpr hcalendar, ?_, hinside, fun row hrow => ?_⟩
  · rw [h.output, List.takeWhile_eq_self_iff.mpr fun row hrow => decide_eq_true (hcalendar row hrow)]
  · have hline := htext row
    rw [Moment.utc_eq hd hyear (hday row hrow)] at hline
    simpa only [List.append_assoc, List.cons_append] using hline

/-- A search that fails prints nothing. -/
theorem output_printed_of_error {s : Setup} {found : Traced SearchError (Page α)} {e : SearchError}
    (h : (printed s line found).outcome = .error (.search e)) : (printed s line found).output = [] := by
  unfold printed at h ⊢
  cases hfound : found.result with
  | error e => rfl
  | ok page =>
    simp only [hfound] at h
    cases hlines : printLines line page.rows with
    | mk output outcome => cases outcome <;> simp [hlines] at h

end Lines

/-- For each day from the year 1000 on that has a next one, the instants inside the bounds of the day are
printed with the text of the day and, as hour and minute, the whole minutes since its start. So a search on
the day from the command line prints a page with the line of every hit, and every line begins with the day. -/
theorem printed_times_show_their_day (hd : d.IsValid) (hyear : 1000 ≤ d.year)
    (hlast : d ≠ { year := 9999, month := 12, day := 31 }) (now : Int) :
    ∃ first last,
      (∀ r : SearchRequest, r.timeZoneOffset = 0 → (searchDate now r.onDate 0).result = .ok d →
        (r.onBounds now).result = .ok (first, last)) ∧
      (∀ t, first ≤ t → t ≤ last →
        Moment.text t = .ok (d.iso ++ ' ' :: clock ((t - first) / 60000).toNat)) ∧
      ∀ w settings s c, (setUp w settings).1 = .ok s → SearchesOn now c d →
        (c.files = false → ∀ page, (searchPosts s.reader s.lookup (s.context now c)
            (SearchBox.parse c.query 0)).result = .ok page →
          PrintsOn (runSearch s now c) d first last page.rows PostRow.createAt postText) ∧
        (c.files = true → ∀ page, (searchFiles s.reader s.lookup (s.context now c)
            (SearchBox.parse c.query 0)).result = .ok page →
          PrintsOn (runSearch s now c) d first last page.rows FileRow.createAt fileText) ∧
        ∀ e, (runSearch s now c).outcome = .error (.search e) → (runSearch s now c).output = [] := by
  have hinside : d.IsInside := ⟨hd, by rintro rfl; exact absurd hyear (by decide), hlast⟩
  have hbounds := (hinside.windows now (by decide : -86400 < (0 : Int) ∧ (0 : Int) < 86400)).on
  refine ⟨_, _, hbounds, fun t hfirst hend => ?_, ?_⟩
  · apply Moment.text_eq hd hyear
    unfold dayStart at hfirst hend
    omega
  · intro w settings s c hs hc
    obtain ⟨store, hserves⟩ := serves_of_setUp hs
    have hon : ∀ r ∈ SearchBox.parse c.query 0, r.onDate ≠ [] ∧
        (r.onBounds (s.context now c).now).result = _ := hc.onBounds hbounds
    have hrun := runSearch_eq s now (hc.parse_ne_nil c.timeZoneOffset)
    rw [hc.offset] at hrun
    refine ⟨fun hfiles page hpage => ?_, fun hfiles page hpage => ?_, fun e he => ?_⟩
    · rw [if_neg (by simp [hfiles])] at hrun
      have hprints := printsPage_printed shows_postLine s hpage
      rw [← hrun] at hprints
      have hday (row : PostRow) (hrow : row ∈ page.rows) := posts_onBounds hserves hon hpage hrow
      exact hprints.printsOn hd hyear hday utc_prefix_postText
    · rw [if_pos hfiles] at hrun
      have hprints := printsPage_printed shows_fileLine s hpage
      rw [← hrun] at hprints
      have hday (row : FileRow) (hrow : row ∈ page.rows) := files_onBounds hserves hon hpage hrow
      exact hprints.printsOn hd hyear hday utc_prefix_fileText
    · rw [hrun] at he ⊢
      split_ifs at he ⊢
      · exact output_printed_of_error he
      · exact output_printed_of_error he

/-- A store with a post in the last millisecond before 1970. -/
def newYearStore : Store :=
  { twoLineStore with
    posts := [{ id := "p1".toList, channelId := "C1".toList, userId := "u1".toList
                message := "cheers".toList, createAt := -1 }] }

def newYearSettings : Settings := { twoLineSetup.settings with storePath := "town.db".toList }

def newYearSetup : Setup :=
  { settings := newYearSettings, store := newYearStore, reader := newYearStore.reader, logs := [] }

/-- The last minute of 1969, and the search that finds its post on that day. -/
theorem printed_times_show_their_day_before_1970 :
    let d : Date := { year := 1969, month := 12, day := 31 }
    let c : CommandLine.SearchCommand := { query := "on:1969-12-31 cheers".toList, user := "u1".toList }
    (d.IsValid ∧ 1000 ≤ d.year ∧ d ≠ { year := 9999, month := 12, day := 31 }) ∧
      Moment.text (-1) = .ok "1969-12-31 23:59".toList ∧
      (setUp { files := [("town.db".toList, .database newYearStore)], now := 0 } newYearSettings).1 =
        .ok newYearSetup ∧
      SearchesOn 0 c d ∧
      ∃ page : Page PostRow, page.rows.map PostRow.createAt = [-1] ∧
        PrintsOn (runSearch newYearSetup 0 c) d (-86400000) (-1) page.rows PostRow.createAt postText := by
  intro d c
  have hd : d.IsValid := by decide
  have hlast : d ≠ { year := 9999, month := 12, day := 31 } := by decide
  have hsetUp : (setUp { files := [("town.db".toList, .database newYearStore)], now := 0 }
      newYearSettings).1 = .ok newYearSetup := by rfl
  have hon : SearchesOn 0 c d := ⟨rfl, by decide +kernel, by decide +kernel⟩
  have hfound : (searchPosts newYearSetup.reader newYearSetup.lookup (newYearSetup.context 0 c)
      (SearchBox.parse c.query 0)).result =
        .ok { rows := newYearStore.posts.map newYearStore.postRow, page := 0, perPage := 20 } := by
    decide +kernel
  obtain ⟨first, last, hbounds, htext, hprints⟩ :=
    printed_times_show_their_day hd (by decide) hlast 0
  have hday : (SearchRequest.onBounds 0 { onDate := d.iso }).result = .ok (-86400000, -1) := by decide +kernel
  rw [hbounds { onDate := d.iso } rfl (IsoDate.searchDate_iso hd 0 0), Except.ok.injEq, Prod.mk.injEq] at hday
  obtain ⟨rfl, rfl⟩ := hday
  refine ⟨⟨hd, by decide, hlast⟩, ?_, hsetUp, hon, _, rfl, (hprints _ _ _ c hsetUp hon).1 rfl _ hfound⟩
  rw [htext (-1) (by decide) (by decide)]
  decide +kernel

end Program

end ChannelSearch
