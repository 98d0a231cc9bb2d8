import ChannelSearch.DateFilter
import ChannelSearch.Proofs.DayNumbers
import ChannelSearch.Proofs.SearchRuns
import ChannelSearch.Proofs.Statements

/-!
The dates of a request as days. Main statement: inside the calendar, an instant satisfies the
conditions on dates when its day, at the offset of the request, is the day to search on, or lies after
the one day and before the other.
-/

namespace ChannelSearch

/-- The number of the day that a text names; of today when it names none. -/
def namedDay (now : Int) (value : Text) (offset : Int) : Int :=
  match IsoDate.read? (padDate value) with
  | some d => d.dayNumber
  | none => (now + offset) / 86400

/-- The number of the day of an instant in milliseconds, at an offset in seconds. -/
def localDay (millis offset : Int) : Int := (millis + offset * 1000) / 86400000

/-- The number of a day of the calendar. -/
def Date.InRange (day : Int) : Prop := firstDay ≤ day ∧ day ≤ lastDay

instance (day : Int) : Decidable (Date.InRange day) := by unfold Date.InRange; infer_instance

namespace SearchRequest

/-- What the dates of a request ask of an instant. A day to search on overrides the others. -/
@[mk_iff inDates_iff]
structure InDates (r : SearchRequest) (now millis : Int) : Prop where
  on : r.onDate ≠ [] →
    localDay millis r.timeZoneOffset = namedDay now r.onDate r.timeZoneOffset
  after : r.onDate = [] → r.afterDate ≠ [] →
    namedDay now r.afterDate r.timeZoneOffset < localDay millis r.timeZoneOffset
  before : r.onDate = [] → r.beforeDate ≠ [] →
    localDay millis r.timeZoneOffset < namedDay now r.beforeDate r.timeZoneOffset

instance (r : SearchRequest) (now millis : Int) : Decidable (r.InDates now millis) :=
  decidable_of_iff' _ (inDates_iff ..)

/-- The offset is shorter than a day, and the dates lie in the calendar with the next day, or with the
day before. -/
@[mk_iff inCalendar_iff]
structure InCalendar (r : SearchRequest) (now : Int) : Prop where
  offset : -86400 < r.timeZoneOffset ∧ r.timeZoneOffset < 86400
  on : r.onDate ≠ [] → Date.firstDay ≤ namedDay now r.onDate r.timeZoneOffset ∧
    namedDay now r.onDate r.timeZoneOffset < Date.lastDay
  after : r.onDate = [] → r.afterDate ≠ [] →
    Date.firstDay ≤ namedDay now r.afterDate r.timeZoneOffset ∧
      namedDay now r.afterDate r.timeZoneOffset < Date.lastDay
  before : r.onDate = [] → r.beforeDate ≠ [] →
    Date.firstDay < namedDay now r.beforeDate r.timeZoneOffset ∧
      namedDay now r.beforeDate r.timeZoneOffset ≤ Date.lastDay

instance (r : SearchRequest) (now : Int) : Decidable (r.InCalendar now) :=
  decidable_of_iff' _ (inCalendar_iff ..)

/-- The days that the bounds are counted from lie in the calendar: the next day of a day to search on
or after, and a day to search before together with the day before it. -/
@[mk_iff hasBounds_iff]
structure HasBounds (r : SearchRequest) (now : Int) : Prop where
  on : r.onDate ≠ [] → Date.InRange (namedDay now r.onDate r.timeZoneOffset + 1)
  after : r.onDate = [] → r.afterDate ≠ [] →
    Date.InRange (namedDay now r.afterDate r.timeZoneOffset + 1)
  before : r.onDate = [] → r.beforeDate ≠ [] →
    Date.InRange (namedDay now r.beforeDate r.timeZoneOffset - 1) ∧
      Date.InRange (namedDay now r.beforeDate r.timeZoneOffset)

instance (r : SearchRequest) (now : Int) : Decidable (r.HasBounds now) :=
  decidable_of_iff' _ (hasBounds_iff ..)

theorem InCalendar.hasBounds {r : SearchRequest} {now : Int} (h : r.InCalendar now) :
    r.HasBounds now := by
  refine ⟨fun hon => ?_, fun hon hafter => ?_, fun hon hbefore => ?_⟩
  · obtain ⟨hfirst, hlast⟩ := h.on hon
    exact ⟨by omega, by omega⟩
  · obtain ⟨hfirst, hlast⟩ := h.after hon hafter
    exact ⟨by omega, by omega⟩
  · obtain ⟨hfirst, hlast⟩ := h.before hon hbefore
    exact ⟨⟨by omega, by omega⟩, by omega, by omega⟩

/-- The dates have their bounds. The offset counts only where there is a date, and is then shorter than
a day. -/
@[mk_iff datesFit_iff]
structure DatesFit (r : SearchRequest) (now : Int) : Prop where
  offset : r.onDate ≠ [] ∨ r.afterDate ≠ [] ∨ r.beforeDate ≠ [] →
    -86400 < r.timeZoneOffset ∧ r.timeZoneOffset < 86400
  bounds : r.HasBounds now

instance (r : SearchRequest) (now : Int) : Decidable (r.DatesFit now) :=
  decidable_of_iff' _ (datesFit_iff ..)

theorem InCalendar.datesFit {r : SearchRequest} {now : Int} (h : r.InCalendar now) : r.DatesFit now :=
  ⟨fun _ => h.offset, h.hasBounds⟩

/-- A date is a filter. -/
theorem dates_of_not_hasFilters {r : SearchRequest} (h : r.hasFilters = false) :
    r.onDate = [] ∧ r.afterDate = [] ∧ r.beforeDate = [] := by
  simp only [hasFilters, Bool.or_eq_false_iff, Bool.not_eq_false', List.isEmpty_iff] at h
  obtain ⟨⟨⟨-, hon⟩, hafter⟩, hbefore⟩ := h
  exact ⟨hon, hafter, hbefore⟩

theorem hasFilters_of_not_hasBounds {r : SearchRequest} {now : Int} (h : ¬ r.HasBounds now) :
    r.hasFilters = true := by
  by_contra hfilters
  obtain ⟨hon, hafter, hbefore⟩ := dates_of_not_hasFilters (Bool.not_eq_true _ ▸ hfilters)
  exact h ⟨absurd hon, fun _ => absurd hafter, fun _ => absurd hbefore⟩

end SearchRequest

variable {now offset : Int}

theorem checkOffset_ok (h : -86400 < offset ∧ offset < 86400) : checkOffset offset = .ok () := by
  obtain ⟨hlow, hhigh⟩ := h
  have hdays : offset / 86400 = 0 ∨ offset / 86400 = -1 := by omega
  have hword : SignedWord.holds 32 (offset / 86400) = true := by
    rcases hdays with hdays | hdays <;> rw [hdays] <;> decide
  have hspan : ¬ 999999999 < (offset / 86400).natAbs := by omega
  have hshort : ¬ (offset ≤ -86400 || 86400 ≤ offset) = true := by
    rw [Bool.or_eq_true, decide_eq_true_eq, decide_eq_true_eq]
    omega
  unfold checkOffset
  dsimp only
  rw [hword, if_neg (by decide), if_neg hspan, if_neg hshort]

/-- An offset that is accepted is shorter than a day. -/
theorem offset_of_checkOffset (h : checkOffset offset = .ok ()) : -86400 < offset ∧ offset < 86400 := by
  unfold checkOffset at h
  dsimp only at h
  split_ifs at h with hword hspan hshort
  rw [Bool.or_eq_true, decide_eq_true_eq, decide_eq_true_eq] at hshort
  omega

/-- The day that a text names is found, whatever the text. -/
theorem searchDate_ok (now : Int) (h : -86400 < offset ∧ offset < 86400) (value : Text) :
    ∃ d : Date, (searchDate now value offset).result = .ok d ∧
      d.dayNumber = namedDay now value offset := by
  unfold searchDate namedDay
  cases IsoDate.read? (padDate value) with
  | some d => exact ⟨d, rfl, rfl⟩
  | none =>
    refine ⟨.ofDayNumber ((now + offset) / 86400), ?_, Date.dayNumber_ofDayNumber _⟩
    dsimp only
    rw [Traced.result_bind, Traced.result_log]
    show Date.today now offset = _
    rw [Date.today, checkOffset_ok h]
    rfl

/-- The first millisecond of a day, given by its number. -/
def dayStart (day offset : Int) : Int := (day * 86400 - offset) * 1000

/-- From the first millisecond of a day on, the day has come. -/
theorem dayStart_le {day millis : Int} :
    dayStart day offset ≤ millis ↔ day ≤ localDay millis offset := by
  unfold dayStart localDay
  omega

theorem le_dayStart {day millis : Int} :
    millis ≤ dayStart day offset - 1 ↔ localDay millis offset < day := by
  unfold dayStart localDay
  omega

/-- The milliseconds of the calendar, and of the day before it, fit the store. -/
theorem fitsStore_dayStart {day : Int} (h : -86400 < offset ∧ offset < 86400)
    (hday : Date.firstDay ≤ day + 1 ∧ day ≤ Date.lastDay) :
    fitsStore (dayStart day offset) = true ∧ fitsStore (dayStart day offset - 1) = true := by
  have hlow : -62135769600000 ≤ dayStart day offset := by
    unfold dayStart
    unfold Date.firstDay at hday
    omega
  have hhigh : dayStart day offset ≤ 253402387200000 := by
    unfold dayStart
    unfold Date.lastDay at hday
    omega
  exact ⟨fitsStore_iff.mpr (by omega), fitsStore_iff.mpr (by omega)⟩

namespace Date

theorem shift_ok {d : Date} (days : Int) (h : InRange (d.dayNumber + days)) :
    ∃ later, d.shift days = .ok later ∧ later.dayNumber = d.dayNumber + days := by
  refine ⟨ofDayNumber (d.dayNumber + days), ?_, dayNumber_ofDayNumber _⟩
  unfold shift
  simp [h.1, h.2]

theorem shift_outOfRange {d : Date} (days : Int) (h : ¬ InRange (d.dayNumber + days)) :
    d.shift days = .error .outOfRange := by
  unfold shift
  rw [if_neg]
  rwa [Bool.and_eq_true, decide_eq_true_eq, decide_eq_true_eq]

theorem startMillis_ok (h : -86400 < offset ∧ offset < 86400) (d : Date) :
    d.startMillis offset = .ok (dayStart d.dayNumber offset) := by
  rw [startMillis, checkOffset_ok h]
  rfl

theorem offset_of_startMillis {d : Date} {millis : Int} (h : d.startMillis offset = .ok millis) :
    -86400 < offset ∧ offset < 86400 := by
  obtain ⟨⟨⟩, hoffset, -⟩ := map_eq_ok.mp h
  exact offset_of_checkOffset hoffset

/-- The start of another day, where the calendar has it. -/
theorem startMillis_shift (h : -86400 < offset ∧ offset < 86400) (d : Date) (days : Int) :
    (d.shift days >>= fun later => later.startMillis offset) =
      if InRange (d.dayNumber + days) then .ok (dayStart (d.dayNumber + days) offset)
      else .error .outOfRange := by
  split_ifs with hday
  · obtain ⟨later, hlater, hnumber⟩ := shift_ok days hday
    rw [hlater, ok_bind, startMillis_ok h, hnumber]
  · rw [shift_outOfRange days hday]
    rfl

theorem endMillis_eq (h : -86400 < offset ∧ offset < 86400) (d : Date) :
    d.endMillis offset =
      if InRange (d.dayNumber + 1) then .ok (dayStart (d.dayNumber + 1) offset - 1)
      else .error .outOfRange := by
  have hend : d.endMillis offset =
      (d.shift 1 >>= fun next => next.startMillis offset) >>= fun start => pure (start - 1) := by
    unfold endMillis
    cases d.shift 1 <;> rfl
  rw [hend, startMillis_shift h]
  split_ifs <;> rfl

end Date

namespace SearchRequest

variable {r : SearchRequest}

theorem onBounds_eq (h : -86400 < r.timeZoneOffset ∧ r.timeZoneOffset < 86400) :
    (r.onBounds now).result =
      if Date.InRange (namedDay now r.onDate r.timeZoneOffset + 1) then
        .ok (dayStart (namedDay now r.onDate r.timeZoneOffset) r.timeZoneOffset,
          dayStart (namedDay now r.onDate r.timeZoneOffset + 1) r.timeZoneOffset - 1)
      else .error .outOfRange := by
  obtain ⟨d, hd, hnumber⟩ := searchDate_ok now h r.onDate
  simp only [onBounds, Traced.result_bind, hd, ok_bind, Traced.result_ofExcept,
    Date.startMillis_ok h, Date.endMillis_eq h, hnumber]
  split_ifs <;> rfl

theorem afterMillis_eq (h : -86400 < r.timeZoneOffset ∧ r.timeZoneOffset < 86400) :
    (r.afterMillis now).result =
      if Date.InRange (namedDay now r.afterDate r.timeZoneOffset + 1) then
        .ok (dayStart (namedDay now r.afterDate r.timeZoneOffset + 1) r.timeZoneOffset)
      else .error .outOfRange := by
  obtain ⟨d, hd, hnumber⟩ := searchDate_ok now h r.afterDate
  simp only [afterMillis, Traced.result_bind, hd, ok_bind, Traced.result_ofExcept,
    Date.startMillis_shift h, hnumber]

/-- The day before is followed to its end, so it must have a next day as well. -/
theorem beforeMillis_eq (h : -86400 < r.timeZoneOffset ∧ r.timeZoneOffset < 86400) :
    (r.beforeMillis now).result =
      if Date.InRange (namedDay now r.beforeDate r.timeZoneOffset - 1) ∧
          Date.InRange (namedDay now r.beforeDate r.timeZoneOffset) then
        .ok (dayStart (namedDay now r.beforeDate r.timeZoneOffset) r.timeZoneOffset - 1)
      else .error .outOfRange := by
  obtain ⟨d, hd, hnumber⟩ := searchDate_ok now h r.beforeDate
  simp only [beforeMillis, Traced.result_bind, hd, ok_bind, Traced.result_ofExcept]
  rw [← hnumber]
  by_cases hpast : Date.InRange (d.dayNumber - 1)
  · obtain ⟨past, hpastDay, hpastNumber⟩ := Date.shift_ok (-1) hpast
    have hback : past.dayNumber + 1 = d.dayNumber := by omega
    rw [hpastDay, ok_bind, Date.endMillis_eq h, hback]
    simp only [hpast, true_and]
  · rw [Date.shift_outOfRange (-1) hpast, if_neg fun h => hpast h.1]
    rfl

/-- The tests of the dates of a request, on a column of instants. -/
def dateTests {C : Type} (r : SearchRequest) (now : Int) (column : C) : List (Sql.Test C) :=
  let day (value : Text) : Int := namedDay now value r.timeZoneOffset
  let start (n : Int) : Int := dayStart n r.timeZoneOffset
  if r.onDate.isEmpty then
    (if r.afterDate.isEmpty then [] else [.atLeast column (start (day r.afterDate + 1))]) ++
      if r.beforeDate.isEmpty then [] else [.atMost column (start (day r.beforeDate) - 1)]
  else [.between column (start (day r.onDate)) (start (day r.onDate + 1) - 1)]

variable {C : Type} {column : C}

/-- The condition that a date puts on a column, unless it is empty. -/
def boundConditions (date : Text) (test : Int → Sql.Test C) (millis : Traced DateError Int) :
    Traced DateError (List (Condition C)) :=
  if date.isEmpty then pure [] else do pure [.test (test (← millis))]

theorem dateConditions_of_on (h : r.onDate ≠ []) :
    r.dateConditions now column =
      r.onBounds now >>= fun bounds => pure [.test (.between column bounds.1 bounds.2)] := by
  unfold dateConditions
  rw [if_pos (by simpa using h)]

theorem dateConditions_of_not_on (h : r.onDate = []) :
    r.dateConditions now column =
      boundConditions r.afterDate (.atLeast column) (r.afterMillis now) >>= fun after =>
        boundConditions r.beforeDate (.atMost column) (r.beforeMillis now) >>= fun before =>
          pure (after ++ before) := by
  unfold dateConditions boundConditions
  rw [h, if_neg (by simp)]
  split_ifs <;> simp only [pure_bind, bind_assoc]

/-- Two parts that fail alike succeed together. -/
theorem bind_both {ε α : Type} {p q : Prop} [Decidable p] [Decidable q] {e : ε} {xs ys : List α} :
    ((if p then .ok xs else .error e) >>= fun xs =>
      (if q then .ok ys else .error e) >>= fun ys => .ok (xs ++ ys) : Except ε (List α)) =
      if p ∧ q then .ok (xs ++ ys) else .error e := by
  by_cases hp : p
  · by_cases hq : q
    · rw [if_pos hp, if_pos hq, if_pos ⟨hp, hq⟩]
      rfl
    · rw [if_pos hp, if_neg hq, if_neg fun h : p ∧ q => hq h.2]
      rfl
  · rw [if_neg hp, if_neg fun h : p ∧ q => hp h.1]
    rfl

theorem boundConditions_eq {date : Text} {test : Int → Sql.Test C} {millis : Traced DateError Int}
    {p : Prop} [Decidable p] {n : Int}
    (h : millis.result = if p then .ok n else .error .outOfRange) :
    (boundConditions date test millis).result =
      if date ≠ [] → p then .ok (if date = [] then [] else [.test (test n)])
      else .error .outOfRange := by
  unfold boundConditions
  by_cases hdate : date = []
  · simp [hdate]
  · have hset : (date ≠ [] → p) ↔ p := ⟨fun hp => hp hdate, fun hp _ => hp⟩
    rw [if_neg (by simpa using hdate), if_neg hdate, Traced.result_bind, h]
    simp only [hset]
    split_ifs <;> rfl

/-- The conditions on dates are made where their days lie in the calendar. -/
theorem dateConditions_eq (h : -86400 < r.timeZoneOffset ∧ r.timeZoneOffset < 86400) :
    (r.dateConditions now column).result =
      if r.HasBounds now then .ok ((r.dateTests now column).map .test) else .error .outOfRange := by
  by_cases hon : r.onDate = []
  · have hbounds : r.HasBounds now ↔
        (r.afterDate ≠ [] → Date.InRange (namedDay now r.afterDate r.timeZoneOffset + 1)) ∧
          (r.beforeDate ≠ [] → Date.InRange (namedDay now r.beforeDate r.timeZoneOffset - 1) ∧
            Date.InRange (namedDay now r.beforeDate r.timeZoneOffset)) := by
      simp [hasBounds_iff, hon]
    have htests : (r.dateTests now column).map Condition.test =
        (if r.afterDate = [] then [] else [.test (.atLeast column
          (dayStart (namedDay now r.afterDate r.timeZoneOffset + 1) r.timeZoneOffset))]) ++
        if r.beforeDate = [] then [] else [.test (.atMost column
          (dayStart (namedDay now r.beforeDate r.timeZoneOffset) r.timeZoneOffset - 1))] := by
      unfold dateTests
      by_cases hafter : r.afterDate = [] <;> by_cases hbefore : r.beforeDate = [] <;>
        simp [hon, hafter, hbefore]
    rw [dateConditions_of_not_on hon, Traced.result_bind, boundConditions_eq (afterMillis_eq h),
      htests]
    simp only [Traced.result_bind, boundConditions_eq (beforeMillis_eq h), Traced.result_pure]
    rw [bind_both, if_congr hbounds rfl rfl]
  · have hbounds : r.HasBounds now ↔
        Date.InRange (namedDay now r.onDate r.timeZoneOffset + 1) := by
      simp [hasBounds_iff, hon]
    rw [dateConditions_of_on hon, Traced.result_bind, onBounds_eq h]
    simp only [hbounds, dateTests, List.isEmpty_iff, hon, if_false]
    split_ifs <;> rfl

theorem length_dateTests : (r.dateTests now column).length ≤ 2 := by
  unfold dateTests
  dsimp only
  split_ifs <;> simp

/-- An instant passes the tests when it lies in the dates of the request. -/
theorem holds_dateTests {row : C → Sql.Value} {millis : Int} (hrow : row column = .int millis) :
    (∀ t ∈ r.dateTests now column, t.holds row = true) ↔ r.InDates now millis := by
  have hatLeast (day : Int) :
      Sql.Test.holds row (.atLeast column (dayStart (day + 1) r.timeZoneOffset)) = true ↔
        day < localDay millis r.timeZoneOffset := by
    rw [← Int.add_one_le_iff, ← dayStart_le]
    simp [Sql.Test.holds, hrow, Sql.Test.isAtLeast]
  have hatMost (day : Int) :
      Sql.Test.holds row (.atMost column (dayStart day r.timeZoneOffset - 1)) = true ↔
        localDay millis r.timeZoneOffset < day := by
    rw [← le_dayStart]
    simp [Sql.Test.holds, hrow, Sql.Test.isAtMost]
  have hbetween (day : Int) :
      Sql.Test.holds row (.between column (dayStart day r.timeZoneOffset)
          (dayStart (day + 1) r.timeZoneOffset - 1)) = true ↔
        localDay millis r.timeZoneOffset = day := by
    have hday : localDay millis r.timeZoneOffset = day ↔
        day ≤ localDay millis r.timeZoneOffset ∧ localDay millis r.timeZoneOffset < day + 1 := by
      omega
    rw [hday, ← dayStart_le, ← le_dayStart]
    simp [Sql.Test.holds, hrow, Sql.Test.isAtLeast, Sql.Test.isAtMost]
  unfold dateTests
  by_cases hon : r.onDate = []
  · by_cases hafter : r.afterDate = [] <;> by_cases hbefore : r.beforeDate = []
    · simp [hon, hafter, hbefore, inDates_iff]
    · simp [hon, hafter, hbefore, inDates_iff, hatMost]
    · simp [hon, hafter, hbefore, inDates_iff, hatLeast]
    · simp [hon, hafter, hbefore, inDates_iff, hatLeast, hatMost]
  · simp [hon, inDates_iff, hbetween]

/-- The tests on dates are bounds, and the store can take them. -/
theorem binds_dateTests (h : -86400 < r.timeZoneOffset ∧ r.timeZoneOffset < 86400)
    (hbounds : r.HasBounds now) : ∀ t ∈ r.dateTests now column, t.Binds := by
  have hstart {day : Int} (hday : Date.InRange (day + 1)) := fitsStore_dayStart h
    ⟨hday.1, (Int.le_add_one le_rfl).trans hday.2⟩
  have hend {day : Int} (hday : Date.InRange day) := fitsStore_dayStart h
    ⟨hday.1.trans (Int.le_add_one le_rfl), hday.2⟩
  unfold dateTests
  by_cases hon : r.onDate = []
  · simp only [hon, List.isEmpty_nil, if_true, List.forall_mem_append]
    constructor
    · split_ifs with hne
      · simp
      · have hday := hbounds.after hon (by simpa using hne)
        exact List.forall_mem_singleton.mpr (hend hday).1
    · split_ifs with hne
      · simp
      · have hday := hbounds.before hon (by simpa using hne)
        exact List.forall_mem_singleton.mpr (hend hday.2).2
  · have hday := hbounds.on hon
    simp only [List.isEmpty_iff, hon, if_false]
    exact List.forall_mem_singleton.mpr ⟨(hstart hday).1, (hend hday).2⟩

/-- Dates that fit are made into tests that the store can take. -/
theorem DatesFit.dateConditions_ok (h : r.DatesFit now) :
    (r.dateConditions now column).result = .ok ((r.dateTests now column).map .test) ∧
      ∀ t ∈ r.dateTests now column, t.Binds := by
  by_cases hdate : r.onDate ≠ [] ∨ r.afterDate ≠ [] ∨ r.beforeDate ≠ []
  · refine ⟨?_, binds_dateTests (h.offset hdate) h.bounds⟩
    rw [dateConditions_eq (h.offset hdate), if_pos h.bounds]
  · simp only [not_or, not_not] at hdate
    obtain ⟨hon, hafter, hbefore⟩ := hdate
    have htests : r.dateTests now column = [] := by
      unfold dateTests
      simp [hon, hafter, hbefore]
    rw [htests]
    refine ⟨?_, by simp⟩
    unfold dateConditions
    rw [hon, hafter, hbefore]
    rfl

theorem offset_of_boundConditions {date : Text} {test : Int → Sql.Test C}
    {millis : Traced DateError Int} {bounds : List (Condition C)} (hdate : date ≠ [])
    (hmillis : ∀ n, millis.result = .ok n → -86400 < offset ∧ offset < 86400)
    (h : (boundConditions date test millis).result = .ok bounds) :
    -86400 < offset ∧ offset < 86400 := by
  unfold boundConditions at h
  rw [if_neg (by simpa using hdate)] at h
  obtain ⟨n, hn, -⟩ := Traced.result_bind_eq_ok.mp h
  exact hmillis n hn

/-- Every bound is counted from the start of a day, which takes an offset shorter than a day. -/
theorem offset_of_dateConditions {dates : List (Condition C)}
    (hdate : r.onDate ≠ [] ∨ r.afterDate ≠ [] ∨ r.beforeDate ≠ [])
    (h : (r.dateConditions now column).result = .ok dates) :
    -86400 < r.timeZoneOffset ∧ r.timeZoneOffset < 86400 := by
  by_cases hon : r.onDate = []
  · rw [dateConditions_of_not_on hon] at h
    obtain ⟨after, hafter, h⟩ := Traced.result_bind_eq_ok.mp h
    obtain ⟨before, hbefore, -⟩ := Traced.result_bind_eq_ok.mp h
    rcases hdate.resolve_left (not_not.mpr hon) with hset | hset
    · refine offset_of_boundConditions hset (fun n hn => ?_) hafter
      obtain ⟨day, -, hn⟩ := Traced.result_bind_eq_ok.mp hn
      obtain ⟨next, -, hn⟩ := bind_eq_ok.mp hn
      exact Date.offset_of_startMillis hn
    · refine offset_of_boundConditions hset (fun n hn => ?_) hbefore
      obtain ⟨day, -, hn⟩ := Traced.result_bind_eq_ok.mp hn
      obtain ⟨past, -, hn⟩ := bind_eq_ok.mp hn
      obtain ⟨next, -, hn⟩ := bind_eq_ok.mp hn
      obtain ⟨start, hstart, -⟩ := bind_eq_ok.mp hn
      exact Date.offset_of_startMillis hstart
  · rw [dateConditions_of_on hon] at h
    obtain ⟨bounds, hbounds, -⟩ := Traced.result_bind_eq_ok.mp h
    obtain ⟨day, -, hbounds⟩ := Traced.result_bind_eq_ok.mp hbounds
    obtain ⟨start, hstart, -⟩ := Traced.result_bind_eq_ok.mp hbounds
    exact Date.offset_of_startMillis hstart

/-- Conditions on dates are made only of dates that fit. -/
theorem datesFit_of_dateConditions {dates : List (Condition C)}
    (h : (r.dateConditions now column).result = .ok dates) : r.DatesFit now := by
  refine ⟨fun hdate => offset_of_dateConditions hdate h, ?_⟩
  by_cases hdate : r.onDate ≠ [] ∨ r.afterDate ≠ [] ∨ r.beforeDate ≠ []
  · rw [dateConditions_eq (offset_of_dateConditions hdate h)] at h
    split_ifs at h with hbounds
    exact hbounds
  · simp only [not_or, not_not] at hdate
    exact ⟨absurd hdate.1, fun _ => absurd hdate.2.1, fun _ => absurd hdate.2.2⟩

theorem spans_dateTests : Condition.Spans ((r.dateTests now column).map .test) 2 4 := by
  constructor
  · rw [Condition.heights_tests, List.length_map]
    exact length_dateTests
  · rw [Condition.heights_tests]
    unfold dateTests
    dsimp only
    split_ifs <;> simp [Condition.testHeight, Condition.chainHeight]

theorem nesting_dateTests {n : Nat} :
    ∀ x ∈ (r.dateTests now column).map Condition.test, x.nesting ≤ n := by
  unfold dateTests
  dsimp only
  split_ifs <;> simp [Condition.nesting, Condition.testNesting]

theorem pattern_dateTests : ∀ t ∈ r.dateTests now column, t.pattern? = none := by
  unfold dateTests
  dsimp only
  split_ifs <;> simp [Sql.Test.pattern?]

end SearchRequest

end ChannelSearch
