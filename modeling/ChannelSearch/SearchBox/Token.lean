import ChannelSearch.Text.Phrase

/-!
The pieces of a search box text. A closed pair of double quotes makes one piece with everything in
it, and a dash right before the opening quote belongs to it; every other piece is a run of characters
without white space, quotes that are not at its start included.
-/

namespace ChannelSearch.SearchBox

inductive Token where
  /-- A phrase with what stands between its quotes. -/
  | phrase (negated : Bool) (body : Text)
  | word (t : Text)
deriving DecidableEq, Repr

def Token.text : Token → Text
  | .phrase negated body => (if negated then ['-'] else []) ++ Text.inQuotes body
  | .word t => t

/-- A phrase at the start of a text, and what follows it. -/
def phraseAt? : Text → Option (Token × Text)
  | '"' :: rest => (Text.closePhrase? rest).map fun (body, after) => (.phrase false body, after)
  | '-' :: '"' :: rest => (Text.closePhrase? rest).map fun (body, after) => (.phrase true body, after)
  | _ => none

theorem length_of_phraseAt? {t after : Text} {token : Token} (h : phraseAt? t = some (token, after)) :
    after.length < t.length := by
  unfold phraseAt? at h
  split at h
  · simp only [Option.map_eq_some_iff, Prod.mk.injEq, Prod.exists] at h
    obtain ⟨b, a, hb, -, rfl⟩ := h
    exact Nat.lt_succ_of_lt (Text.length_of_closePhrase? hb)
  · simp only [Option.map_eq_some_iff, Prod.mk.injEq, Prod.exists] at h
    obtain ⟨b, a, hb, -, rfl⟩ := h
    exact Nat.lt_succ_of_lt (Nat.lt_succ_of_lt (Text.length_of_closePhrase? hb))
  · cases h

/-- Reads pieces from left to right, skipping the white space between them. -/
def lex (t : Text) : List Token :=
  match h : phraseAt? t with
  | some (token, after) =>
    have := length_of_phraseAt? h
    token :: lex after
  | none =>
    match t with
    | [] => []
    | c :: rest =>
      if isBlank c then lex rest
      else
        have := (List.dropWhile_suffix (fun d => !isBlank d) (l := rest)).length_le
        .word (c :: rest.takeWhile fun d => !isBlank d) :: lex (rest.dropWhile fun d => !isBlank d)
termination_by t.length
decreasing_by
  · assumption
  · simp
  · simp only [List.length_cons]; omega

end ChannelSearch.SearchBox
