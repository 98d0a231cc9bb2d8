import ChannelSearch.Text.Blank

/-!
Phrases: the parts of a text between double quotes, paired from the left. A quote without a partner
stays in the text.
-/

namespace ChannelSearch.Text

/-- The body of a phrase and what follows it, read after its opening quote. -/
def closePhrase? : Text → Option (Text × Text)
  | [] => none
  | c :: rest =>
    if c = '"' then some ([], rest)
    else (closePhrase? rest).map fun (body, after) => (c :: body, after)

theorem length_of_closePhrase? {t body after : Text} (h : closePhrase? t = some (body, after)) :
    after.length < t.length := by
  induction t generalizing body with
  | nil => simp [closePhrase?] at h
  | cons c rest ih =>
    unfold closePhrase? at h
    split at h
    · simp only [Option.some.injEq, Prod.mk.injEq] at h
      simp [← h.2]
    · simp only [Option.map_eq_some_iff, Prod.mk.injEq, Prod.exists] at h
      obtain ⟨b, a, hb, -, rfl⟩ := h
      exact Nat.lt_succ_of_lt (ih hb)

/-- A body between double quotes. -/
def inQuotes (body : Text) : Text := '"' :: (body ++ ['"'])

/-- The phrases that hold more than white space, with their quotes, and the text that is left with a
space in place of every phrase. -/
def extractPhrases (t : Text) : List Text × Text :=
  match t with
  | [] => ([], [])
  | c :: rest =>
    if c = '"' then
      match h : closePhrase? rest with
      | some (body, after) =>
        have := length_of_closePhrase? h
        let (phrases, remainder) := extractPhrases after
        (if isBlankText body then phrases else inQuotes body :: phrases, ' ' :: remainder)
      | none =>
        let (phrases, remainder) := extractPhrases rest
        (phrases, c :: remainder)
    else
      let (phrases, remainder) := extractPhrases rest
      (phrases, c :: remainder)
termination_by t.length
decreasing_by
  · simp only [List.length_cons]; omega
  · simp
  · simp

end ChannelSearch.Text
