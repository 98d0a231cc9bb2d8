import ChannelSearch.Text.Blank
import Mathlib.Data.List.Basic
import Mathlib.Data.List.TakeWhile
import Mathlib.Tactic.Common

/-!
Splitting a text and joining texts. A text splits at each separator, whatever stands around it, so
the words of a joined text are the words of its parts.
-/

namespace ChannelSearch.Text

variable {p : Char → Bool}

theorem splitWhere_ne_nil (p : Char → Bool) (t : Text) : t.splitWhere p ≠ [] := by
  cases t with
  | nil => simp [splitWhere]
  | cons c rest =>
    unfold splitWhere
    split_ifs
    · simp
    · split <;> simp

theorem splitWhere_cons (p : Char → Bool) (c : Char) (rest : Text) :
    splitWhere p (c :: rest) =
      if p c then [] :: splitWhere p rest else (splitWhere p rest).modifyHead (c :: ·) := by
  rw [splitWhere]
  congr 1
  obtain ⟨piece, pieces, h⟩ := List.exists_cons_of_ne_nil (splitWhere_ne_nil p rest)
  simp [h]

/-- A text splits at a separator. -/
theorem splitWhere_append_cons {c : Char} (hc : p c = true) (a b : Text) :
    splitWhere p (a ++ c :: b) = splitWhere p a ++ splitWhere p b := by
  induction a with
  | nil => simp [splitWhere, hc]
  | cons d a ih =>
    obtain ⟨piece, pieces, h⟩ := List.exists_cons_of_ne_nil (splitWhere_ne_nil p a)
    rw [List.cons_append, splitWhere_cons, splitWhere_cons, ih, h]
    split_ifs <;> simp

/-- A text without a separator is one piece. -/
theorem splitWhere_of_none {t : Text} (h : ∀ c ∈ t, p c = false) : splitWhere p t = [t] := by
  induction t with
  | nil => rfl
  | cons c rest ih =>
    rw [splitWhere_cons, ih fun d hd => h d (List.mem_cons_of_mem c hd)]
    simp [h c List.mem_cons_self]

theorem not_of_mem_splitWhere {t piece : Text} {c : Char} (hpiece : piece ∈ splitWhere p t)
    (hc : c ∈ piece) : p c = false := by
  induction t generalizing piece with
  | nil => simp_all [splitWhere]
  | cons d rest ih =>
    rw [splitWhere_cons] at hpiece
    split_ifs at hpiece with hd
    · rcases List.mem_cons.mp hpiece with rfl | hpiece
      · simp at hc
      · exact ih hpiece hc
    · obtain ⟨first, others, h⟩ := List.exists_cons_of_ne_nil (splitWhere_ne_nil p rest)
      rw [h, List.modifyHead_cons] at hpiece
      rcases List.mem_cons.mp hpiece with rfl | hpiece
      · rcases List.mem_cons.mp hc with rfl | hc
        · simpa using hd
        · exact ih (h ▸ List.mem_cons_self) hc
      · exact ih (h ▸ List.mem_cons_of_mem _ hpiece) hc

theorem mem_of_mem_splitWhere {t piece : Text} {c : Char} (hpiece : piece ∈ splitWhere p t)
    (hc : c ∈ piece) : c ∈ t := by
  induction t generalizing piece with
  | nil =>
    rw [splitWhere, List.mem_singleton] at hpiece
    simp [hpiece] at hc
  | cons d rest ih =>
    obtain ⟨first, pieces, h⟩ := List.exists_cons_of_ne_nil (splitWhere_ne_nil p rest)
    rw [splitWhere_cons] at hpiece
    split_ifs at hpiece with hd
    · rcases List.mem_cons.mp hpiece with rfl | hpiece
      · simp at hc
      · exact List.mem_cons_of_mem d (ih hpiece hc)
    · rw [h, List.modifyHead_cons] at hpiece
      rcases List.mem_cons.mp hpiece with rfl | hpiece
      · rcases List.mem_cons.mp hc with rfl | hc
        · exact List.mem_cons_self
        · exact List.mem_cons_of_mem d (ih (h ▸ List.mem_cons_self) hc)
      · exact List.mem_cons_of_mem d (ih (h ▸ List.mem_cons_of_mem _ hpiece) hc)

/-- A letter by letter change that keeps separators, and makes none, goes through a split. -/
theorem splitWhere_flatMap {f : Char → Text} (hsep : ∀ c, p c = true → f c = [c])
    (hother : ∀ c, p c = false → ∀ d ∈ f c, p d = false) (t : Text) :
    splitWhere p (t.flatMap f) = (splitWhere p t).map (List.flatMap f) := by
  induction t with
  | nil => rfl
  | cons c rest ih =>
    obtain ⟨piece, pieces, h⟩ := List.exists_cons_of_ne_nil (splitWhere_ne_nil p rest)
    have hstart : ∀ w : Text, (∀ d ∈ w, p d = false) →
        splitWhere p (w ++ rest.flatMap f) = (splitWhere p (rest.flatMap f)).modifyHead (w ++ ·) := by
      intro w hw
      induction w with
      | nil => simp [ih, h]
      | cons d w ihw =>
        rw [List.cons_append, splitWhere_cons, ihw fun x hx => hw x (List.mem_cons_of_mem d hx),
          if_neg (by simp [hw d List.mem_cons_self]), ih, h]
        rfl
    rw [List.flatMap_cons, splitWhere_cons]
    by_cases hc : p c = true
    · rw [hsep c hc, if_pos hc, List.singleton_append, splitWhere_cons, if_pos hc, ih]
      rfl
    · have hc : p c = false := by simpa using hc
      rw [hstart (f c) (hother c hc), ih, h]
      simp [hc]

@[simp] theorem words_nil : words [] = [] := by simp [words, splitWhere]

/-- Words split at white space; everything about words follows from this. -/
theorem words_append_blank {c : Char} (hc : isBlank c = true) (a b : Text) :
    words (a ++ c :: b) = words a ++ words b := by
  simp [words, splitWhere_append_cons hc]

theorem words_of_visible {t : Text} (hne : t ≠ []) (h : ∀ c ∈ t, isBlank c = false) :
    words t = [t] := by
  simp [words, splitWhere_of_none h, hne]

theorem mem_words {t word : Text} (h : word ∈ words t) :
    word ≠ [] ∧ ∀ c ∈ word, isBlank c = false := by
  obtain ⟨hword, hne⟩ := List.mem_filter.mp h
  exact ⟨by simpa using hne, fun c hc => not_of_mem_splitWhere hword hc⟩

theorem mem_of_mem_words {t word : Text} (h : word ∈ words t) {c : Char} (hc : c ∈ word) : c ∈ t :=
  mem_of_mem_splitWhere (List.mem_filter.mp h).1 hc

theorem words_of_blank {t : Text} (h : ∀ c ∈ t, isBlank c = true) : words t = [] := by
  apply List.eq_nil_iff_forall_not_mem.mpr
  intro word hword
  obtain ⟨hne, hvisible⟩ := mem_words hword
  obtain ⟨c, hc⟩ := List.exists_mem_of_ne_nil word hne
  have hblank := h c (mem_of_mem_words hword hc)
  rw [hvisible c hc] at hblank
  cases hblank

/-- What is not white space is in the words as often as in the text. -/
theorem count_flatten_words {c : Char} (hc : isBlank c = false) (t : Text) :
    t.words.flatten.count c = t.count c := by
  have hpieces : (splitWhere isBlank t).flatten.count c = t.count c := by
    induction t with
    | nil => rfl
    | cons d rest ih =>
      obtain ⟨piece, pieces, h⟩ := List.exists_cons_of_ne_nil (splitWhere_ne_nil isBlank rest)
      rw [h] at ih
      rw [splitWhere_cons]
      split_ifs with hd
      · have hne : d ≠ c := by
          rintro rfl
          rw [hd] at hc
          cases hc
        rw [h, List.flatten_cons, List.nil_append, ih, List.count_cons_of_ne hne]
      · rw [h, List.modifyHead_cons, List.flatten_cons, List.cons_append, List.count_cons,
          ← List.flatten_cons, ih, List.count_cons]
  rw [← hpieces, words]
  congr 1
  exact List.flatten_filter_ne_nil

theorem words_flatMap {f : Char → Text} (hblank : ∀ c, isBlank c = true → f c = [c])
    (hvisible : ∀ c, isBlank c = false → f c ≠ [] ∧ ∀ d ∈ f c, isBlank d = false) (t : Text) :
    words (t.flatMap f) = (words t).map (List.flatMap f) := by
  have hne : ∀ c, f c ≠ [] := by
    intro c
    by_cases hc : isBlank c = true
    · simp [hblank c hc]
    · exact (hvisible c (by simpa using hc)).1
  unfold words
  rw [splitWhere_flatMap hblank fun c hc => (hvisible c hc).2, List.filter_map]
  congr 1
  apply List.filter_congr
  intro piece _
  cases piece with
  | nil => rfl
  | cons c piece => simp [hne c]

@[simp] theorem join_nil (separator : Text) : join separator [] = [] := rfl

@[simp] theorem join_singleton (separator t : Text) : join separator [t] = t := by simp [join]

theorem join_cons {separator t : Text} {ts : List Text} (h : ts ≠ []) :
    join separator (t :: ts) = t ++ separator ++ join separator ts :=
  List.intercalate_cons_of_ne_nil h

theorem join_append {separator : Text} {ts us : List Text} (ht : ts ≠ []) (hu : us ≠ []) :
    join separator (ts ++ us) = join separator ts ++ separator ++ join separator us := by
  induction ts with
  | nil => exact absurd rfl ht
  | cons t ts ih =>
    by_cases hts : ts = []
    · simp [hts, join_cons hu]
    · rw [List.cons_append, join_cons (by simp [hts]), ih hts, join_cons hts]
      simp

/-- A text is put together again from its pieces. -/
theorem join_splitWhere (c : Char) (t : Text) : join [c] (t.splitWhere (· = c)) = t := by
  induction t with
  | nil => rfl
  | cons d t ih =>
    obtain ⟨piece, pieces, h⟩ := List.exists_cons_of_ne_nil (splitWhere_ne_nil (· = c) t)
    rw [splitWhere_cons]
    rw [h] at ih ⊢
    by_cases hd : d = c
    · rw [if_pos (by simpa using hd), join_cons (List.cons_ne_nil _ _), ih, hd]
      rfl
    · rw [if_neg (by simpa using hd), List.modifyHead_cons]
      cases pieces with
      | nil => simpa using congrArg (d :: ·) ih
      | cons next pieces =>
        rw [join_cons (List.cons_ne_nil _ _)] at ih ⊢
        rw [List.cons_append, List.cons_append, ih]

/-- There is one piece more than there are separators. -/
theorem length_splitWhere (c : Char) (t : Text) : (t.splitWhere (· = c)).length = t.count c + 1 := by
  induction t with
  | nil => rfl
  | cons d t ih =>
    rw [splitWhere_cons]
    by_cases hd : d = c
    · rw [if_pos (by simpa using hd), List.length_cons, ih, hd, List.count_cons_self]
    · rw [if_neg (by simpa using hd), List.length_modifyHead, ih, List.count_cons_of_ne hd]

theorem mem_join {separator : Text} {ts : List Text} {c : Char} (h : c ∈ join separator ts) :
    c ∈ separator ∨ ∃ t ∈ ts, c ∈ t := by
  induction ts with
  | nil => simp at h
  | cons t ts ih =>
    by_cases hts : ts = []
    · exact Or.inr ⟨t, List.mem_cons_self, by simpa [hts] using h⟩
    · rw [join_cons hts, List.mem_append, List.mem_append] at h
      rcases h with (h | h) | h
      · exact Or.inr ⟨t, List.mem_cons_self, h⟩
      · exact Or.inl h
      · rcases ih h with h | ⟨u, hu, hc⟩
        · exact Or.inl h
        · exact Or.inr ⟨u, List.mem_cons_of_mem t hu, hc⟩

/-- A text is what trimming leaves of it between characters that are trimmed. -/
theorem exists_around_trim (p : Char → Bool) (t : Text) : ∃ before after,
    t = before ++ (t.trim p ++ after) ∧ (∀ c ∈ before, p c = true) ∧ ∀ c ∈ after, p c = true := by
  have hright : t.trim p ++ ((t.dropWhile p).reverse.takeWhile p).reverse = t.dropWhile p := by
    rw [trim, ← List.reverse_append, List.takeWhile_append_dropWhile, List.reverse_reverse]
  refine ⟨t.takeWhile p, ((t.dropWhile p).reverse.takeWhile p).reverse, ?_, ?_, ?_⟩
  · rw [hright, List.takeWhile_append_dropWhile]
  · exact fun c hc => List.mem_takeWhile_imp hc
  · exact fun c hc => List.mem_takeWhile_imp (List.mem_reverse.mp hc)

theorem trim_subset (p : Char → Bool) (t : Text) : t.trim p ⊆ t := by
  obtain ⟨before, after, hsplit, -, -⟩ := exists_around_trim p t
  intro c hc
  rw [hsplit]
  exact List.mem_append_right _ (List.mem_append_left _ hc)

/-- What white space at the ends of a text does not change, stripping does not change. -/
theorem apply_strip {β : Type} {f : Text → β} (hhead : ∀ c t, isBlank c = true → f (c :: t) = f t)
    (hlast : ∀ c t, isBlank c = true → f (t ++ [c]) = f t) (t : Text) : f t.strip = f t := by
  have hdrop (g : Text → β) (hg : ∀ c t, isBlank c = true → g (c :: t) = g t) (u : Text) :
      g (u.dropWhile isBlank) = g u := by
    induction u with
    | nil => rfl
    | cons c u ih =>
      by_cases hc : isBlank c = true
      · rw [List.dropWhile_cons_of_pos hc, ih, hg c u hc]
      · rw [List.dropWhile_cons_of_neg hc]
  have hend := hdrop (fun u => f u.reverse)
    (fun c u hc => by rw [List.reverse_cons, hlast c _ hc]) (t.dropWhile isBlank).reverse
  calc
    f t.strip = f (t.dropWhile isBlank).reverse.reverse := hend
    _ = f (t.dropWhile isBlank) := by rw [List.reverse_reverse]
    _ = f t := hdrop f hhead t

end ChannelSearch.Text
