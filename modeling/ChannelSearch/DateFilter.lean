import ChannelSearch.Calendar.IsoDate
import ChannelSearch.Calendar.Millis
import ChannelSearch.Condition.Basic
import ChannelSearch.Request.Basic
import ChannelSearch.Text.Quoted
import ChannelSearch.Trace

/-!
The dates of a request as bounds on a time in milliseconds. A date that cannot be read counts as the
date of today, with a warning.
-/

namespace ChannelSearch

/-- Month and day with at least two digits. -/
def padDate (value : Text) : Text :=
  match value.strip.splitWhere (· = '-') with
  | [year, month, day] =>
    year ++ '-' :: (Text.zeroFill 2 month ++ '-' :: Text.zeroFill 2 day)
  | _ => value.strip

/-- The date that a text names; of today at the instant `now` when it names none. -/
def searchDate (now : Int) (value : Text) (offset : Int) : Traced DateError Date :=
  match IsoDate.read? (padDate value) with
  | some d => pure d
  | none => do
    Traced.log .warning .dates
      ("invalid_search_date value=".toList ++ value.quoted ++ " falling back to today".toList)
    .ofExcept (Date.today now offset)

namespace SearchRequest

/-- The first and the last millisecond of the day to search on. -/
def onBounds (now : Int) (r : SearchRequest) : Traced DateError (Int × Int) := do
  let day ← searchDate now r.onDate r.timeZoneOffset
  let first ← .ofExcept (day.startMillis r.timeZoneOffset)
  let last ← .ofExcept (day.endMillis r.timeZoneOffset)
  pure (first, last)

/-- The first millisecond after the day to search after. -/
def afterMillis (now : Int) (r : SearchRequest) : Traced DateError Int := do
  let day ← searchDate now r.afterDate r.timeZoneOffset
  .ofExcept do (← day.shift 1).startMillis r.timeZoneOffset

/-- The last millisecond before the day to search before. -/
def beforeMillis (now : Int) (r : SearchRequest) : Traced DateError Int := do
  let day ← searchDate now r.beforeDate r.timeZoneOffset
  .ofExcept do (← day.shift (-1)).endMillis r.timeZoneOffset

/-- A day to search on overrides the other two dates. -/
def dateConditions {C : Type} (now : Int) (column : C) (r : SearchRequest) :
    Traced DateError (List (Condition C)) :=
  if !r.onDate.isEmpty then do
    let (first, last) ← r.onBounds now
    pure [.test (.between column first last)]
  else do
    let after ←
      if r.afterDate.isEmpty then pure []
      else do pure [.test (.atLeast column (← r.afterMillis now))]
    let before ←
      if r.beforeDate.isEmpty then pure []
      else do pure [.test (.atMost column (← r.beforeMillis now))]
    pure (after ++ before)

end SearchRequest

end ChannelSearch
