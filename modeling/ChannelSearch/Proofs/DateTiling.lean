import ChannelSearch.Proofs.DateWindows
import ChannelSearch.Proofs.IsoDates
import ChannelSearch.Proofs.Moments

/-!
The windows of the days. Main statement: the times before, on and after a day of the calendar make up
the time line without overlap, the window of a day holds the instants of its date and no others, and the
window of the next day begins where it ends.
-/

namespace ChannelSearch

def ExactlyOne (p q r : Prop) : Prop :=
  p ∧ ¬ q ∧ ¬ r ∨ ¬ p ∧ q ∧ ¬ r ∨ ¬ p ∧ ¬ q ∧ r

variable {now offset : Int}

theorem namedDay_of_searchDate {value : Text} {d : Date} (h : -86400 < offset ∧ offset < 86400)
    (hd : (searchDate now value offset).result = .ok d) : namedDay now value offset = d.dayNumber := by
  obtain ⟨found, hfound, hnumber⟩ := searchDate_ok now h value
  rw [hd, Except.ok.injEq] at hfound
  rw [← hnumber, hfound]

namespace Date

/-- Dates in the order of the calendar, counted from 1970-01-01 onwards and backwards. -/
structure CountsDays (dates : Int → Date) : Prop where
  epoch : dates 0 = { year := 1970, month := 1, day := 1 }
  real : ∀ n, (dates n).IsReal
  next : ∀ n, dates (n + 1) = (dates n).next

theorem countsDays_ofDayNumber : CountsDays ofDayNumber :=
  ⟨by decide, isReal_ofDayNumber, ofDayNumber_succ⟩

/-- The day lies strictly between the first and the last day of the calendar. -/
structure IsInside (d : Date) : Prop where
  valid : d.IsValid
  notFirst : d ≠ { year := 1, month := 1, day := 1 }
  notLast : d ≠ { year := 9999, month := 12, day := 31 }

/-- The bounds that a search puts on the times before, on and after a day, in every request at the offset
that names the day there. -/
structure Windows (now offset : Int) (d : Date) (before first last after : Int) : Prop where
  before : ∀ r : SearchRequest, r.timeZoneOffset = offset →
    (searchDate now r.beforeDate offset).result = .ok d → (r.beforeMillis now).result = .ok before
  on : ∀ r : SearchRequest, r.timeZoneOffset = offset →
    (searchDate now r.onDate offset).result = .ok d → (r.onBounds now).result = .ok (first, last)
  after : ∀ r : SearchRequest, r.timeZoneOffset = offset →
    (searchDate now r.afterDate offset).result = .ok d → (r.afterMillis now).result = .ok after

variable {d : Date}

theorem IsValid.inRange (h : d.IsValid) : InRange d.dayNumber := by
  apply (year_bounds d.dayNumber).mp
  rw [ofDayNumber_dayNumber h.isReal]
  exact ⟨h.1, h.2.1⟩

/-- A day inside the calendar has a day before it and a next one. -/
theorem IsInside.inRange (h : d.IsInside) : firstDay < d.dayNumber ∧ d.dayNumber < lastDay := by
  have hround := ofDayNumber_dayNumber h.valid.isReal
  obtain ⟨hlow, hhigh⟩ := h.valid.inRange
  have hfirst : d.dayNumber ≠ firstDay := by
    intro heq
    apply h.notFirst
    rw [← hround, heq]
    decide
  have hlast : d.dayNumber ≠ lastDay := by
    intro heq
    apply h.notLast
    rw [← hround, heq]
    decide
  omega

theorem dayStart_succ (day offset : Int) : dayStart (day + 1) offset = dayStart day offset + 86400000 := by
  unfold dayStart
  omega

/-- All three bounds are counted from the starts of the day and of the next one. -/
theorem IsInside.windows (h : d.IsInside) (now : Int) (hoffset : -86400 < offset ∧ offset < 86400) :
    d.Windows now offset (dayStart d.dayNumber offset - 1) (dayStart d.dayNumber offset)
      (dayStart (d.dayNumber + 1) offset - 1) (dayStart (d.dayNumber + 1) offset) := by
  obtain ⟨hlow, hhigh⟩ := h.inRange
  have hbefore : InRange (d.dayNumber - 1) := ⟨by omega, by omega⟩
  have hday : InRange d.dayNumber := ⟨by omega, by omega⟩
  have hafter : InRange (d.dayNumber + 1) := ⟨by omega, by omega⟩
  constructor
  · intro r hr hd
    have hbounds : (r.beforeMillis now).result = _ := r.beforeMillis_eq (by rwa [hr])
    rwa [hr, namedDay_of_searchDate hoffset hd, if_pos ⟨hbefore, hday⟩] at hbounds
  · intro r hr hd
    have hbounds : (r.onBounds now).result = _ := r.onBounds_eq (by rwa [hr])
    rwa [hr, namedDay_of_searchDate hoffset hd, if_pos hafter] at hbounds
  · intro r hr hd
    have hbounds : (r.afterMillis now).result = _ := r.afterMillis_eq (by rwa [hr])
    rwa [hr, namedDay_of_searchDate hoffset hd, if_pos hafter] at hbounds

theorem ofDayNumber_eq_iff (h : d.IsReal) (n : Int) : ofDayNumber n = d ↔ n = d.dayNumber := by
  constructor
  · intro heq
    rw [← heq, dayNumber_ofDayNumber]
  · intro heq
    rw [heq, ofDayNumber_dayNumber h]

/-- Every instant lies before, on or after a day in exactly one way; the window of the day has the length
of a day and holds the instants of its date, and the next day follows at once. -/
theorem windows_tile_the_time_line (now : Int) (hoffset : -86400 < offset ∧ offset < 86400)
    (hd : d.IsInside) :
    CountsDays ofDayNumber ∧ (searchDate now d.iso offset).result = .ok d ∧
      ∃ before first last after, d.Windows now offset before first last after ∧
        (∀ t, ExactlyOne (t ≤ before) (first ≤ t ∧ t ≤ last) (after ≤ t)) ∧
        last - first + 1 = 86400000 ∧
        (∀ t, first ≤ t ∧ t ≤ last ↔ ofDayNumber (localDay t offset) = d) ∧
        (d.next.IsInside →
          ∃ nextLast nextAfter, d.next.Windows now offset last (last + 1) nextLast nextAfter) := by
  have hlength := dayStart_succ d.dayNumber offset
  refine ⟨countsDays_ofDayNumber, IsoDate.searchDate_iso hd.valid now offset, _, _, _, _,
    hd.windows now hoffset, ?_, by omega, ?_, ?_⟩
  · intro t
    unfold ExactlyOne
    omega
  · intro t
    rw [ofDayNumber_eq_iff hd.valid.isReal, dayStart_le, le_dayStart]
    omega
  · intro hnext
    have hwindows := hnext.windows now hoffset
    rw [dayNumber_next hd.valid.isReal] at hwindows
    rw [Int.sub_add_cancel]
    exact ⟨_, _, hwindows⟩

/-- The first of March follows a leap day at an offset of five and a half hours. -/
theorem windows_tile_the_time_line_leap_day :
    (-86400 < (19800 : Int) ∧ (19800 : Int) < 86400) ∧
      IsInside { year := 2024, month := 2, day := 29 } ∧
      ∃ before first last after nextLast nextAfter,
        Windows 0 19800 { year := 2024, month := 2, day := 29 } before first last after ∧
          (∀ t, ExactlyOne (t ≤ before) (first ≤ t ∧ t ≤ last) (after ≤ t)) ∧
          last - first + 1 = 86400000 ∧
          Windows 0 19800 { year := 2024, month := 3, day := 1 } last (last + 1) nextLast nextAfter := by
  have hoffset : -86400 < (19800 : Int) ∧ (19800 : Int) < 86400 := by decide
  have hday : IsInside { year := 2024, month := 2, day := 29 } := ⟨by decide, by decide, by decide⟩
  have hnext : IsInside { year := 2024, month := 3, day := 1 } := ⟨by decide, by decide, by decide⟩
  obtain ⟨-, -, before, first, last, after, hwindows, htiles, hlength, -, hmarch⟩ :=
    windows_tile_the_time_line 0 hoffset hday
  obtain ⟨nextLast, nextAfter, hfollows⟩ := hmarch hnext
  exact ⟨hoffset, hday, before, first, last, after, nextLast, nextAfter, hwindows, htiles, hlength,
    hfollows⟩

end Date

end ChannelSearch
