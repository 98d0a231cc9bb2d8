import ChannelSearch.Proofs.DateTiling
import ChannelSearch.Proofs.ReadDates

/-!
Dates as they are typed. Main statements: a typed date has the windows of the text of its day, which is
today for a text that names no day; and a text that names a day keeps it when month and day are filled with
zeros, unless it has two dashes and is not the text of the day.
-/

namespace ChannelSearch

variable {now offset : Int} {value : Text} {d : Date}

/-- The record of a text that names no day. -/
def dateWarning (value : Text) : Event :=
  .logged ⟨.warning, .dates,
    "invalid_search_date value=".toList ++ value.quoted ++ " falling back to today".toList⟩

/-- The date of today, with one warning. -/
def fallBack (now : Int) (value : Text) (offset : Int) : Traced DateError Date :=
  ⟨[dateWarning value], Date.today now offset⟩

theorem searchDate_of_unread (h : IsoDate.read? (padDate value) = none) (now offset : Int) :
    searchDate now value offset = fallBack now value offset := by
  unfold searchDate
  rw [h]
  rfl

theorem today_ok (hoffset : -86400 < offset ∧ offset < 86400)
    (hclock : Date.InRange ((now + offset) / 86400)) :
    ∃ d, Date.today now offset = .ok d ∧ d.IsValid := by
  refine ⟨.ofDayNumber ((now + offset) / 86400), ?_, ?_⟩
  · rw [Date.today, checkOffset_ok hoffset]
    rfl
  · obtain ⟨hfirst, hlast⟩ := (Date.year_bounds _).mpr hclock
    obtain ⟨hmonth, hday⟩ := Date.isReal_ofDayNumber ((now + offset) / 86400)
    exact ⟨hfirst, hlast, hmonth.1, hmonth.2, hday⟩

/-- A text is read as the day that it names, or as today with one warning. -/
inductive IsReadAs (now offset : Int) (value : Text) (d : Date) : Prop where
  | named (hread : IsoDate.read? (padDate value) = some d) (hdate : searchDate now value offset = pure d)
  | today (hread : IsoDate.read? (padDate value) = none) (htoday : Date.today now offset = .ok d)
      (hdate : searchDate now value offset = ⟨[dateWarning value], .ok d⟩)

theorem IsReadAs.result (h : IsReadAs now offset value d) :
    (searchDate now value offset).result = .ok d := by
  cases h with
  | named hread hdate =>
    rw [hdate]
    rfl
  | today hread htoday hdate => rw [hdate]

theorem exists_isReadAs (hoffset : -86400 < offset ∧ offset < 86400)
    (hclock : Date.InRange ((now + offset) / 86400)) (value : Text) :
    ∃ d : Date, d.IsValid ∧ IsReadAs now offset value d := by
  cases hread : IsoDate.read? (padDate value) with
  | some d =>
    exact ⟨d, IsoDate.isValid_of_read hread, .named hread (IsoDate.searchDate_of_read hread now offset)⟩
  | none =>
    obtain ⟨d, htoday, hvalid⟩ := today_ok hoffset hclock
    refine ⟨d, hvalid, .today hread htoday ?_⟩
    rw [searchDate_of_unread hread, fallBack, htoday]

/-- Two runs with one result: these events happen in the first, and nothing in the second. -/
def AgreesAfter {α : Type} (events : List Event) (x y : Traced DateError α) : Prop :=
  x.events = events ∧ y.events = [] ∧ x.result = y.result

theorem agreesAfter_bind {α : Type} {x y : Traced DateError Date} (hx : x.result = .ok d)
    (hy : y = pure d) {f : Date → Traced DateError α} (hf : (f d).events = []) :
    AgreesAfter x.events (x >>= f) (y >>= f) := by
  have hbind : x >>= f = ⟨x.events ++ (f d).events, (f d).result⟩ := by
    show Traced.bind x f = _
    unfold Traced.bind
    rw [hx]
  rw [hy, hbind, hf, List.append_nil]
  exact ⟨rfl, hf, rfl⟩

/-- A text has the windows of another one, in every request at the offset: what is logged for the text is
all that differs. -/
structure HasWindowsOf (now offset : Int) (value text : Text) : Prop where
  on : ∀ r : SearchRequest, r.timeZoneOffset = offset →
    AgreesAfter (searchDate now value offset).events
      ({ r with onDate := value }.onBounds now) ({ r with onDate := text }.onBounds now)
  after : ∀ r : SearchRequest, r.timeZoneOffset = offset →
    AgreesAfter (searchDate now value offset).events
      ({ r with afterDate := value }.afterMillis now) ({ r with afterDate := text }.afterMillis now)
  before : ∀ r : SearchRequest, r.timeZoneOffset = offset →
    AgreesAfter (searchDate now value offset).events
      ({ r with beforeDate := value }.beforeMillis now) ({ r with beforeDate := text }.beforeMillis now)

theorem hasWindowsOf_of_read {text : Text} (hvalue : (searchDate now value offset).result = .ok d)
    (htext : searchDate now text offset = pure d) : HasWindowsOf now offset value text := by
  refine ⟨?_, ?_, ?_⟩
  · rintro r rfl
    apply agreesAfter_bind hvalue htext
    dsimp only
    cases d.startMillis r.timeZoneOffset with
    | error e => rfl
    | ok first => cases d.endMillis r.timeZoneOffset <;> rfl
  · rintro r rfl
    exact agreesAfter_bind hvalue htext rfl
  · rintro r rfl
    exact agreesAfter_bind hvalue htext rfl

namespace Date

/-- The text names the day by a year of four digits, a month and a day, with or without leading zeros in
the last two, and with white space around. The day need not exist. -/
def IsSpelled (d : Date) (value : Text) : Prop :=
  d.FitsFields ∧ ∃ before after monthWidth dayWidth,
    (∀ c ∈ before, isBlank c = true) ∧ (∀ c ∈ after, isBlank c = true) ∧ monthWidth ≤ 2 ∧ dayWidth ≤ 2 ∧
      value = before ++ d.spelling monthWidth dayWidth ++ after

theorem IsSpelled.read (h : d.IsSpelled value) :
    IsoDate.read? (padDate value) = if d.IsValid then some d else none := by
  obtain ⟨hfits, before, after, monthWidth, dayWidth, hbefore, hafter, hmonth, hday, rfl⟩ := h
  rw [padDate_spelling hmonth hday (Text.strip_between hbefore hafter isSolid_spelling),
    IsoDate.read?_iso hfits]

/-- No year has a 30 February. -/
theorem not_isValid_february (year : Int) : ¬ IsValid { year, month := 2, day := 30 } := by
  rintro ⟨-, -, -, -, -, hday⟩
  have hlength : monthLength year 2 ≤ 29 := by
    show (if isLeapYear year then 29 else 28) ≤ 29
    split_ifs <;> decide
  exact Nat.not_succ_le_self 29 (hday.trans hlength)

end Date

/-- Every text is read as a day whose own text is read the same way, and has the windows of that text. A
day is read from all its spellings; a spelling of a day that does not exist, such as a 30 February, is read
as today. -/
theorem dates_are_read_canonically (hoffset : -86400 < offset ∧ offset < 86400)
    (hclock : Date.InRange ((now + offset) / 86400)) :
    (∀ value, ∃ d : Date, d.IsValid ∧ IsReadAs now offset value d ∧
      searchDate now d.iso offset = pure d ∧ HasWindowsOf now offset value d.iso) ∧
      (∀ d value, Date.IsSpelled d value → d.IsValid → searchDate now value offset = pure d) ∧
      (∀ d value, Date.IsSpelled d value → ¬ d.IsValid →
        searchDate now value offset = fallBack now value offset) ∧
      ∀ year value, Date.IsSpelled { year, month := 2, day := 30 } value →
        searchDate now value offset = fallBack now value offset := by
  have hnone (d : Date) (value : Text) (h : d.IsSpelled value) (hvalid : ¬ d.IsValid) :
      searchDate now value offset = fallBack now value offset := by
    apply searchDate_of_unread
    rw [h.read, if_neg hvalid]
  refine ⟨fun value => ?_, fun d value h hvalid => ?_, hnone,
    fun year value h => hnone _ value h (Date.not_isValid_february year)⟩
  · obtain ⟨d, hvalid, hread⟩ := exists_isReadAs hoffset hclock value
    have hiso := IsoDate.searchDate_of_read (IsoDate.read?_padDate_iso hvalid) now offset
    exact ⟨d, hvalid, hread, hiso, hasWindowsOf_of_read hread.result hiso⟩
  · apply IsoDate.searchDate_of_read
    rw [h.read, if_pos hvalid]

/-- A leap day without a leading zero, and the day after it, which does not exist. -/
theorem dates_are_read_canonically_leap_day :
    (-86400 < (0 : Int) ∧ (0 : Int) < 86400) ∧ Date.InRange ((0 + 0) / 86400) ∧
      searchDate 0 " 2024-2-29\n".toList 0 = pure { year := 2024, month := 2, day := 29 } ∧
      searchDate 0 "2024-02-30".toList 0 = fallBack 0 "2024-02-30".toList 0 ∧
      ∃ d : Date, searchDate 0 d.iso 0 = pure d ∧ HasWindowsOf 0 0 "2024-02-30".toList d.iso := by
  have hoffset : -86400 < (0 : Int) ∧ (0 : Int) < 86400 := by decide
  have hclock : Date.InRange ((0 + 0) / 86400) := by decide
  obtain ⟨hwindows, hread, -, hunread⟩ := dates_are_read_canonically hoffset hclock
  have hleap : Date.IsSpelled { year := 2024, month := 2, day := 29 } " 2024-2-29\n".toList :=
    ⟨⟨by decide, by decide, by decide⟩, [' '], ['\n'], 1, 1, by decide, by decide, by decide, by decide,
      by decide +kernel⟩
  have hnone : Date.IsSpelled { year := 2024, month := 2, day := 30 } "2024-02-30".toList :=
    ⟨⟨by decide, by decide, by decide⟩, [], [], 2, 2, by decide, by decide, by decide, by decide,
      by decide +kernel⟩
  obtain ⟨d, -, -, hiso, hsame⟩ := hwindows "2024-02-30".toList
  exact ⟨hoffset, hclock, hread _ _ hleap (by decide), hunread _ _ hnone, d, hiso, hsame⟩

namespace Text

theorem byteSize_zeroFill (width : Nat) (t : Text) :
    byteSize (zeroFill width t) = byteSize t + (width - t.length) := by
  have hzeros (n : Nat) : byteSize (List.replicate n '0') = n := by
    rw [byteSize_of_ascii, List.length_replicate]
    intro c hc
    rw [List.eq_of_mem_replicate hc]
    decide
  unfold zeroFill
  split
  · simp only [byteSize_cons, byteSize_append, hzeros]
    omega
  · simp only [byteSize_cons, byteSize_append, hzeros]
    omega
  · rw [byteSize_append, hzeros, Nat.add_comm]

end Text

/-- Month and day stand after the two dashes. -/
theorem padDate_of_two_dashes (h : value.strip.count '-' = 2) :
    ∃ year month day, value.strip.splitWhere (· = '-') = [year, month, day] ∧
      value.strip = year ++ '-' :: (month ++ '-' :: day) ∧
      padDate value = year ++ '-' :: (Text.zeroFill 2 month ++ '-' :: Text.zeroFill 2 day) := by
  have hlength := Text.length_splitWhere '-' value.strip
  rw [h] at hlength
  obtain ⟨year, month, day, hsplit⟩ := List.length_eq_three.mp hlength
  refine ⟨year, month, day, hsplit, ?_, ?_⟩
  · have hjoin := Text.join_splitWhere '-' value.strip
    rw [hsplit] at hjoin
    rw [← hjoin]
    simp [Text.join_cons]
  · unfold padDate
    rw [hsplit]

theorem padDate_of_other_dashes (h : value.strip.count '-' ≠ 2) : padDate value = value.strip := by
  unfold padDate
  split
  · next hsplit =>
    have hlength := Text.length_splitWhere '-' value.strip
    rw [hsplit] at hlength
    exact absurd (Nat.succ.inj hlength).symm h
  · rfl

/-- A last field that is too short is filled, and the text grows. -/
theorem byteSize_lt_padDate (hdashes : value.strip.count '-' = 2) (hends : IsoDate.EndsShort value.strip) :
    value.strip.byteSize < (padDate value).byteSize := by
  obtain ⟨year, month, day, hsplit, hvalue, hpadded⟩ := padDate_of_two_dashes hdashes
  obtain ⟨front, back, hfront, hback, hshort⟩ := hends
  have hday : day = back := by
    have hone : Text.splitWhere (· = '-') back = [back] :=
      Text.splitWhere_of_none fun c hc => decide_eq_false fun heq => hback (heq ▸ hc)
    rw [hfront, Text.splitWhere_append_cons (by decide), hone] at hsplit
    have hlast := congrArg List.getLast? hsplit
    simpa using hlast.symm
  rw [hpadded, hvalue]
  simp only [Text.byteSize_append, Text.byteSize_cons, Text.byteSize_zeroFill]
  rw [hday]
  omega

/-- A text that names a day keeps it when it is padded, unless it has two dashes and is not the text of the
day: then a search falls back to today. -/
theorem padded_dates_keep_their_day (h : IsoDate.read? value.strip = some d) (now offset : Int) :
    searchDate now value offset =
      if value.strip.count '-' ≠ 2 ∨ value.strip = d.iso then pure d
      else fallBack now value offset := by
  split_ifs with hkept
  · apply IsoDate.searchDate_of_read
    rcases hkept with hdashes | hiso
    · rw [padDate_of_other_dashes hdashes, h]
    · rw [Date.padDate_spelling (Nat.le_refl 2) (Nat.le_refl 2) hiso, ← hiso, h]
  · rw [not_or, not_not] at hkept
    obtain ⟨hdashes, hiso⟩ := hkept
    obtain ⟨hsize, hends⟩ := IsoDate.read?_of_two_dashes h hdashes
    apply searchDate_of_unread
    apply IsoDate.read?_of_long
    rw [← hsize]
    exact byteSize_lt_padDate hdashes (hends.resolve_left hiso)

/-- A week without a day keeps its Monday. -/
theorem padded_dates_keep_their_day_week :
    IsoDate.read? (Text.strip " 2024-W10 ".toList) = some { year := 2024, month := 3, day := 4 } ∧
      searchDate 0 " 2024-W10 ".toList 0 = pure { year := 2024, month := 3, day := 4 } := by
  have hread : IsoDate.read? (Text.strip " 2024-W10 ".toList) =
      some { year := 2024, month := 3, day := 4 } := by
    decide +kernel
  exact ⟨hread, (padded_dates_keep_their_day hread 0 0).trans (if_pos (by decide +kernel))⟩

/-- The day of the week is filled with a zero as if it were the day of a month, and its date is lost. -/
theorem day_of_week_is_lost :
    IsoDate.read? (Text.strip "2024-W10-1".toList) = some { year := 2024, month := 3, day := 4 } ∧
      padDate "2024-W10-1".toList = "2024-W10-01".toList ∧
      searchDate 0 "2024-W10-1".toList 0 =
        ⟨[dateWarning "2024-W10-1".toList], .ok { year := 1970, month := 1, day := 1 }⟩ := by
  refine ⟨by decide +kernel, by decide +kernel, ?_⟩
  exact searchDate_of_unread (by decide +kernel) 0 0

end ChannelSearch
