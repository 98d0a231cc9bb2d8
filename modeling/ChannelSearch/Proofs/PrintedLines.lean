import ChannelSearch.Program.Run
import ChannelSearch.Proofs.EmptyQueries
import ChannelSearch.Proofs.IsoDates
import ChannelSearch.Proofs.Moments
import ChannelSearch.Proofs.SearchRuns

/-!
What a search prints. Main statement: a page is printed with the line of each hit, in the order of the
page, up to the first hit whose time is outside the calendar; there are as many lines as hits when no
text of a hit breaks its line.
-/

namespace ChannelSearch

namespace Text

theorem newline_not_mem_ofNat (n : Nat) : '\n' ∉ ofNat n := by
  intro h
  exact absurd (isDigit_of_mem_ofNat h) (by decide)

theorem newline_not_mem_ofInt (n : Int) : '\n' ∉ ofInt n := by
  have hnat (n : Nat) : '\n' ∉ n.repr.toList := newline_not_mem_ofNat n
  rw [ofInt, Int.toString_eq_repr, Int.repr_eq_if]
  split_ifs
  · exact hnat _
  · rw [String.toList_append, List.mem_append, not_or]
    exact ⟨by decide, hnat _⟩

end Text

theorem Moment.newline_not_mem_utc (s : Int) : '\n' ∉ utc s := by
  have hpadded := Date.not_mem_paddedNumber (c := '\n') (by decide)
  simp [utc, Text.newline_not_mem_ofInt, hpadded]

namespace Program

open Moment

/-- The line of a post whose time is in the calendar. -/
def postText (p : PostRow) : Text :=
  utc (p.createAt / 1000) ++ "  ".toList ++ p.channelId ++ "  ".toList ++ p.message ++
    if p.replyCount = 0 then [] else " (".toList ++ Text.ofInt p.replyCount ++ " replies)".toList

def fileText (f : FileRow) : Text :=
  utc (f.createAt / 1000) ++ "  ".toList ++ f.channelId ++ "  ".toList ++ f.name

section Lines

variable {α : Type} {line : α → Except MomentError Text} {createAt : α → Int} {text : α → Text}

/-- Rows have a line when their time is in the calendar. -/
def Shows (line : α → Except MomentError Text) (createAt : α → Int) (text : α → Text) : Prop :=
  ∀ row t, line row = .ok t ↔ IsInCalendar (createAt row) ∧ t = text row

theorem shows_postLine : Shows postLine PostRow.createAt postText := by
  intro p t
  unfold postLine
  rw [ChannelSearch.bind_eq_ok]
  simp only [text_eq_ok_iff]
  constructor
  · rintro ⟨time, ⟨hcalendar, rfl⟩, h⟩
    exact ⟨hcalendar, (Except.ok.inj h).symm⟩
  · rintro ⟨hcalendar, rfl⟩
    exact ⟨_, ⟨hcalendar, rfl⟩, rfl⟩

theorem shows_fileLine : Shows fileLine FileRow.createAt fileText := by
  intro f t
  unfold fileLine
  rw [ChannelSearch.bind_eq_ok]
  simp only [text_eq_ok_iff]
  constructor
  · rintro ⟨time, ⟨hcalendar, rfl⟩, h⟩
    exact ⟨hcalendar, (Except.ok.inj h).symm⟩
  · rintro ⟨hcalendar, rfl⟩
    exact ⟨_, ⟨hcalendar, rfl⟩, rfl⟩

/-- The lines of rows, each with its end. -/
def lines (text : α → Text) (rows : List α) : Text := rows.flatMap fun row => text row ++ ['\n']

theorem printLines_output (h : Shows line createAt text) (rows : List α) :
    (printLines line rows).1 =
      lines text (rows.takeWhile fun row => decide (IsInCalendar (createAt row))) := by
  induction rows with
  | nil => rfl
  | cons row rows ih =>
    rw [printLines]
    cases hline : line row with
    | error e =>
      have houtside : ¬ IsInCalendar (createAt row) := fun hcalendar => by
        rw [(h row _).mpr ⟨hcalendar, rfl⟩] at hline
        cases hline
      rw [List.takeWhile_cons_of_neg (by simpa using houtside)]
      rfl
    | ok t =>
      obtain ⟨hcalendar, rfl⟩ := (h row t).mp hline
      rw [List.takeWhile_cons_of_pos (by simpa using hcalendar), lines, List.flatMap_cons,
        List.append_assoc]
      exact congrArg (text row ++ '\n' :: ·) ih

theorem printLines_outcome (h : Shows line createAt text) (rows : List α) :
    (printLines line rows).2 = .ok () ↔ ∀ row ∈ rows, IsInCalendar (createAt row) := by
  induction rows with
  | nil => simp [printLines]
  | cons row rows ih =>
    rw [printLines, List.forall_mem_cons, ← ih]
    cases hline : line row with
    | error e =>
      refine iff_of_false nofun fun hcalendar => ?_
      rw [(h row _).mpr ⟨hcalendar.1, rfl⟩] at hline
      cases hline
    | ok t => exact (and_iff_right ((h row t).mp hline).1).symm

theorem count_lines_cons (text : α → Text) (row : α) (rows : List α) :
    (lines text (row :: rows)).count '\n' =
      (text row).count '\n' + 1 + (lines text rows).count '\n' := by
  rw [lines, List.flatMap_cons, List.count_append, List.count_append, List.count_singleton_self]
  rfl

theorem length_le_count_lines (text : α → Text) (rows : List α) :
    rows.length ≤ (lines text rows).count '\n' := by
  induction rows with
  | nil => exact Nat.zero_le _
  | cons row rows ih =>
    rw [count_lines_cons, List.length_cons]
    omega

/-- Lines are as many as rows when no text breaks its line. -/
theorem count_lines (text : α → Text) (rows : List α) :
    (lines text rows).count '\n' = rows.length ↔ ∀ row ∈ rows, '\n' ∉ text row := by
  induction rows with
  | nil => simp [lines]
  | cons row rows ih =>
    have hrest := length_le_count_lines text rows
    rw [count_lines_cons, List.length_cons, List.forall_mem_cons, ← List.count_eq_zero]
    refine Iff.trans ?_ (and_congr_right fun _ => ih)
    omega

/-- A run prints a page: the lines of its hits in the order of the page, up to the first hit whose time
is outside the calendar. The run succeeds, and reports the number of hits, when there is none. -/
structure PrintsPage (r : RunResult) (page : Page α) (createAt : α → Int) (text : α → Text) : Prop where
  output : r.output =
    lines text (page.rows.takeWhile fun row => decide (IsInCalendar (createAt row)))
  succeeds : r.outcome = .ok () ↔ ∀ row ∈ page.rows, IsInCalendar (createAt row)
  fails : r.outcome = .ok () ∨ ∃ e, r.outcome = .error (.moment e)
  reports : r.outcome = .ok () → r.logs.getLast? = some (searchDone page.rows.length)

theorem printsPage_printed (h : Shows line createAt text) (s : Setup)
    {found : Traced SearchError (Page α)} {page : Page α} (hpage : found.result = .ok page) :
    PrintsPage (printed s line found) page createAt text := by
  have houtput := printLines_output h page.rows
  have houtcome := printLines_outcome h page.rows
  unfold printed
  rw [hpage]
  dsimp only
  cases hlines : printLines line page.rows with
  | mk output outcome =>
    rw [hlines] at houtput houtcome
    cases outcome with
    | error e =>
      have houtside := houtcome.not.mp nofun
      exact ⟨houtput, iff_of_false nofun houtside, Or.inr ⟨e, rfl⟩, nofun⟩
    | ok u =>
      exact ⟨houtput, iff_of_true rfl (houtcome.mp rfl), Or.inl rfl, fun _ => List.getLast?_concat⟩

/-- There is one line for each hit when every time is in the calendar and no text breaks its line. -/
theorem PrintsPage.count_output {r : RunResult} {page : Page α} (h : PrintsPage r page createAt text) :
    r.outcome = .ok () ∧ r.output.count '\n' = page.rows.length ↔
      ∀ row ∈ page.rows, IsInCalendar (createAt row) ∧ '\n' ∉ text row := by
  rw [forall₂_and, ← h.succeeds]
  refine and_congr_right fun hok => ?_
  have hall : page.rows.takeWhile (fun row => decide (IsInCalendar (createAt row))) = page.rows :=
    List.takeWhile_eq_self_iff.mpr fun row hrow => decide_eq_true (h.succeeds.mp hok row hrow)
  rw [h.output, hall, count_lines]

end Lines

theorem newline_mem_postText (p : PostRow) :
    '\n' ∈ postText p ↔ '\n' ∈ p.channelId ∨ '\n' ∈ p.message := by
  have hreplies : '\n' ∉ if p.replyCount = 0 then [] else
      " (".toList ++ Text.ofInt p.replyCount ++ " replies)".toList := by
    split_ifs
    · exact List.not_mem_nil
    · simp [Text.newline_not_mem_ofInt]
  have hspace : '\n' ∉ "  ".toList := by decide
  unfold postText
  simp only [List.mem_append, newline_not_mem_utc, hspace, hreplies, false_or, or_false]

theorem newline_mem_fileText (f : FileRow) :
    '\n' ∈ fileText f ↔ '\n' ∈ f.channelId ∨ '\n' ∈ f.name := by
  have hspace : '\n' ∉ "  ".toList := by decide
  unfold fileText
  simp only [List.mem_append, newline_not_mem_utc, hspace, false_or, or_false]

/-- What a search from the command line asks for. -/
def Setup.context (s : Setup) (now : Int) (c : CommandLine.SearchCommand) : SearchContext :=
  { userId := c.user, teamId := c.team, page := c.page
    perPage := if c.perPage = 0 then s.settings.perPage else c.perPage
    now }

theorem runSearch_eq (s : Setup) (now : Int) {c : CommandLine.SearchCommand}
    (h : SearchBox.parse c.query c.timeZoneOffset ≠ []) :
    runSearch s now c =
      if c.files then
        printed s fileLine (searchFiles s.reader s.lookup (s.context now c)
          (SearchBox.parse c.query c.timeZoneOffset))
      else
        printed s postLine (searchPosts s.reader s.lookup (s.context now c)
          (SearchBox.parse c.query c.timeZoneOffset)) := by
  have hsome : ¬ (SearchBox.parse c.query c.timeZoneOffset).isEmpty = true := by simpa using h
  unfold runSearch
  exact if_neg hsome

/-- A search whose text has a visible character besides double quotes prints the page that is found, and
as many lines as hits when every time of a hit is in the calendar and no text of a hit breaks its line.
Any other search prints that it is empty, and finds nothing. -/
theorem search_prints_its_hits (s : Setup) (now : Int) (c : CommandLine.SearchCommand) :
    ((∀ x ∈ c.query, SearchBox.SaysNothing x) →
      runSearch s now c =
        { outcome := .ok (), output := "empty query\n".toList, logs := s.logs ++ [searchDone 0] }) ∧
    ((∃ x ∈ c.query, ¬ SearchBox.SaysNothing x) → c.files = false →
      ∀ page, (searchPosts s.reader s.lookup (s.context now c)
          (SearchBox.parse c.query c.timeZoneOffset)).result = .ok page →
        PrintsPage (runSearch s now c) page PostRow.createAt postText ∧
        ((runSearch s now c).outcome = .ok () ∧
            (runSearch s now c).output.count '\n' = page.rows.length ↔
          ∀ p ∈ page.rows, IsInCalendar p.createAt ∧ '\n' ∉ p.channelId ∧ '\n' ∉ p.message)) ∧
    ((∃ x ∈ c.query, ¬ SearchBox.SaysNothing x) → c.files = true →
      ∀ page, (searchFiles s.reader s.lookup (s.context now c)
          (SearchBox.parse c.query c.timeZoneOffset)).result = .ok page →
        PrintsPage (runSearch s now c) page FileRow.createAt fileText ∧
        ((runSearch s now c).outcome = .ok () ∧
            (runSearch s now c).output.count '\n' = page.rows.length ↔
          ∀ f ∈ page.rows, IsInCalendar f.createAt ∧ '\n' ∉ f.channelId ∧ '\n' ∉ f.name)) := by
  have hparse := SearchBox.parse_eq_nil_iff c.query c.timeZoneOffset
  have hasked (hvisible : ∃ x ∈ c.query, ¬ SearchBox.SaysNothing x) :
      SearchBox.parse c.query c.timeZoneOffset ≠ [] := fun hnil => by
    obtain ⟨x, hx, hsays⟩ := hvisible
    exact hsays (hparse.mp hnil x hx)
  refine ⟨fun hsilent => ?_, fun hvisible hfiles page hpage => ?_, fun hvisible hfiles page hpage => ?_⟩
  · unfold runSearch
    exact if_pos (List.isEmpty_iff.mpr (hparse.mpr hsilent))
  · have hrun := runSearch_eq s now (hasked hvisible)
    rw [if_neg (by simp [hfiles])] at hrun
    have hprints := printsPage_printed shows_postLine s hpage
    rw [← hrun] at hprints
    refine ⟨hprints, hprints.count_output.trans ?_⟩
    simp only [newline_mem_postText, not_or]
  · have hrun := runSearch_eq s now (hasked hvisible)
    rw [if_pos hfiles] at hrun
    have hprints := printsPage_printed shows_fileLine s hpage
    rw [← hrun] at hprints
    refine ⟨hprints, hprints.count_output.trans ?_⟩
    simp only [newline_mem_fileText, not_or]

/-- A store with a post of two lines. -/
def twoLineStore : Store :=
  { users := [{ id := "u1".toList, username := "alice".toList }]
    channels := [{ id := "C1".toList, name := "town".toList }]
    channelMembers := [{ channelId := "C1".toList, userId := "u1".toList }]
    posts := [{ id := "p1".toList, channelId := "C1".toList, userId := "u1".toList
                message := "build\nfailed".toList, createAt := 1000 }] }

def twoLineSetup : Setup :=
  { settings :=
      { storePath := [], replicaPath := none, perPage := 20, logLevel := "INFO".toList
        channelsByName := false, usersByUsername := false }
    store := twoLineStore
    reader := twoLineStore.reader
    logs := [] }

/-- A post of two lines is one hit and two printed lines. -/
theorem search_prints_its_hits_broken :
    ∃ page, (searchPosts twoLineSetup.reader twoLineSetup.lookup
        (twoLineSetup.context 0 { query := "build".toList, user := "u1".toList })
        (SearchBox.parse "build".toList 0)).result = .ok page ∧
      page.rows.length = 1 ∧
      (runSearch twoLineSetup 0 { query := "build".toList, user := "u1".toList }).output =
        "1970-01-01 00:00  C1  build\nfailed\n".toList ∧
      ¬ ((runSearch twoLineSetup 0 { query := "build".toList, user := "u1".toList }).outcome = .ok () ∧
        (runSearch twoLineSetup 0 { query := "build".toList, user := "u1".toList }).output.count '\n' =
          page.rows.length) := by
  have hfound : (searchPosts twoLineSetup.reader twoLineSetup.lookup
      (twoLineSetup.context 0 { query := "build".toList, user := "u1".toList })
      (SearchBox.parse "build".toList 0)).result =
        .ok { rows := twoLineStore.posts.map twoLineStore.postRow, page := 0, perPage := 20 } := by
    decide +kernel
  obtain ⟨-, hcount⟩ := (search_prints_its_hits twoLineSetup 0
    { query := "build".toList, user := "u1".toList }).2.1
      ⟨'b', by decide, by unfold SearchBox.SaysNothing; decide⟩ rfl _ hfound
  refine ⟨_, hfound, rfl, by decide +kernel, ?_⟩
  rw [hcount]
  decide

/-- A store with a post of the year 10000 and a file whose name is of two lines. -/
def unprintableStore : Store :=
  { twoLineStore with
    posts := [{ id := "p1".toList, channelId := "C1".toList, userId := "u1".toList
                message := "build".toList, createAt := 253402300800000 }]
    files := [{ id := "f1".toList, channelId := "C1".toList, creatorId := "u1".toList
                name := "build\nlog.txt".toList, createAt := 1000 }] }

def unprintableSetup : Setup :=
  { twoLineSetup with store := unprintableStore, reader := unprintableStore.reader }

/-- The post is found and has no line, and the file is found and has two. -/
theorem hits_with_no_line_and_with_two :
    (searchPosts unprintableSetup.reader unprintableSetup.lookup
        (unprintableSetup.context 0 { query := "build".toList, user := "u1".toList })
        (SearchBox.parse "build".toList 0)).result.map (fun page => page.rows.length) = .ok 1 ∧
      (runSearch unprintableSetup 0 { query := "build".toList, user := "u1".toList }).outcome =
        .error (.moment (.yearOutOfRange 10000)) ∧
      (runSearch unprintableSetup 0 { query := "build".toList, user := "u1".toList }).output = [] ∧
      (searchFiles unprintableSetup.reader unprintableSetup.lookup
        (unprintableSetup.context 0 { query := "build".toList, user := "u1".toList })
        (SearchBox.parse "build".toList 0)).result.map (fun page => page.rows.length) = .ok 1 ∧
      (runSearch unprintableSetup 0
        { query := "build".toList, user := "u1".toList, files := true }).outcome = .ok () ∧
      (runSearch unprintableSetup 0
        { query := "build".toList, user := "u1".toList, files := true }).output.count '\n' = 2 := by
  decide +kernel

end Program

end ChannelSearch
