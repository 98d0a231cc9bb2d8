import ChannelSearch.Proofs.SearchRuns
import ChannelSearch.Settings.Basic

/-!
Where settings come from. Main statement: each variable has its value in the environment, else the value
of the first line of the settings file that assigns to it, else its default; the settings follow from these
values, and no other line has a part in them.
-/

namespace ChannelSearch

theorem Text.cutAt?_eq_some {mark : Char} {t before after : Text} :
    t.cutAt? mark = some (before, after) ↔ t = before ++ mark :: after ∧ mark ∉ before := by
  induction t generalizing before with
  | nil => simp [cutAt?]
  | cons c rest ih =>
    rw [cutAt?]
    split_ifs with hc
    · constructor
      · intro h
        obtain ⟨rfl, rfl⟩ := Prod.mk.inj (Option.some.inj h)
        exact ⟨by rw [hc, List.nil_append], List.not_mem_nil⟩
      · rintro ⟨h, hmark⟩
        cases before with
        | nil => rw [(List.cons.inj h).2]
        | cons d before =>
          rw [← (List.cons.inj h).1, hc] at hmark
          exact absurd List.mem_cons_self hmark
    · rw [Option.map_eq_some_iff]
      constructor
      · rintro ⟨⟨front, back⟩, hcut, h⟩
        obtain ⟨rfl, rfl⟩ := Prod.mk.inj h
        obtain ⟨rfl, hmark⟩ := ih.mp hcut
        exact ⟨rfl, by simp [Ne.symm hc, hmark]⟩
      · rintro ⟨h, hmark⟩
        cases before with
        | nil => exact absurd (List.cons.inj h).1 hc
        | cons d before =>
          obtain ⟨rfl, rfl⟩ := List.cons.inj h
          exact ⟨(before, after), ih.mpr ⟨rfl, fun h => hmark (List.mem_cons_of_mem _ h)⟩, rfl⟩

namespace Environment

/-- The lines of a settings file. -/
def lines (file : Text) : List Text := file.unifyNewlines.splitWhere Text.isLineBreak

/-- A line assigns to a name when it is no comment and the name stands before its first equals sign; the
value stands after it, without outer double quotes and then without outer single ones. -/
def Assigns (line name value : Text) : Prop :=
  ∃ before after : Text, line.strip = before ++ '=' :: after ∧ '=' ∉ before ∧
    line.strip.head? ≠ some '#' ∧ name = before.strip ∧
    value = (after.strip.trim (· = '"')).trim (· = '\'')

theorem assignment?_eq_some {line name value : Text} :
    assignment? line = some (name, value) ↔ Assigns line name value := by
  unfold assignment? Assigns
  split
  · next rest hline => simp [hline]
  · next t hcomment =>
    have hhead : line.strip.head? ≠ some '#' := by
      intro h
      obtain ⟨rest, hrest⟩ := List.head?_eq_some_iff.mp h
      exact hcomment rest hrest
    rw [Option.map_eq_some_iff]
    constructor
    · rintro ⟨⟨before, after⟩, hcut, h⟩
      obtain ⟨rfl, rfl⟩ := Prod.mk.inj h
      obtain ⟨hline, hequals⟩ := Text.cutAt?_eq_some.mp hcut
      exact ⟨before, after, hline, hequals, hhead, rfl, rfl⟩
    · rintro ⟨before, after, hline, hequals, -, rfl, rfl⟩
      exact ⟨(before, after), Text.cutAt?_eq_some.mpr ⟨hline, hequals⟩, rfl⟩

/-- The value that a line assigns to a name, if it does. -/
def assigned? (name line : Text) : Option Text :=
  (assignment? line).bind fun a => if a.1 = name then some a.2 else none

theorem assigned?_eq_some {name line value : Text} :
    assigned? name line = some value ↔ Assigns line name value := by
  rw [assigned?, Option.bind_eq_some_iff, ← assignment?_eq_some]
  constructor
  · rintro ⟨⟨n, v⟩, hline, h⟩
    obtain ⟨rfl, hv⟩ := Option.ite_none_right_eq_some.mp h
    obtain rfl := Option.some.inj hv
    exact hline
  · intro h
    exact ⟨_, h, if_pos rfl⟩

theorem assigned?_eq_none {name line : Text} :
    assigned? name line = none ↔ ∀ value, ¬ Assigns line name value := by
  simp only [Option.eq_none_iff_forall_ne_some, ne_eq, assigned?_eq_some]

/-- The line assigns to no empty name. -/
def IsNamed (line : Text) : Prop := ∀ value, ¬ Assigns line [] value

instance (line : Text) : Decidable (IsNamed line) :=
  decidable_of_iff (assigned? [] line = none) assigned?_eq_none

theorem ne_nil_of_isNamed {line name value : Text} (h : IsNamed line) (hline : Assigns line name value) :
    name ≠ [] := by
  rintro rfl
  exact h value hline

/-- Where the value of a name comes from: the environment, the first line that assigns to it, or
nowhere. -/
inductive Gives (e : Environment) (ls : List Text) (name : Text) : Option Text → Prop
  | environment {value : Text} (h : e.get? name = some value) : Gives e ls name (some value)
  | line {earlier later : List Text} {line value : Text} (hunset : e.get? name = none)
      (hsplit : ls = earlier ++ line :: later) (hearlier : ∀ l ∈ earlier, ∀ v, ¬ Assigns l name v)
      (h : Assigns line name value) : Gives e ls name (some value)
  | nowhere (hunset : e.get? name = none) (h : ∀ l ∈ ls, ∀ v, ¬ Assigns l name v) :
      Gives e ls name none

/-- The value that is given to a name. -/
def given? (e : Environment) (ls : List Text) (name : Text) : Option Text :=
  (e.get? name).or (ls.findSome? (assigned? name))

theorem gives_iff {e : Environment} {ls : List Text} {name : Text} {v : Option Text} :
    Gives e ls name v ↔ v = e.given? ls name := by
  unfold given?
  constructor
  · intro h
    cases h with
    | environment h => rw [h, Option.some_or]
    | line hunset hsplit hearlier h =>
      have hnone : ∀ l ∈ _, assigned? name l = none := fun l hl => assigned?_eq_none.mpr (hearlier l hl)
      rw [hunset, Option.none_or, hsplit, List.findSome?_append, List.findSome?_eq_none_iff.mpr hnone,
        Option.none_or, List.findSome?_cons, assigned?_eq_some.mpr h]
    | nowhere hunset h =>
      rw [hunset, Option.none_or, eq_comm, List.findSome?_eq_none_iff]
      exact fun l hl => assigned?_eq_none.mpr (h l hl)
  · rintro rfl
    cases hset : e.get? name with
    | some value =>
      rw [Option.some_or]
      exact .environment hset
    | none =>
      rw [Option.none_or]
      cases hfound : ls.findSome? (assigned? name) with
      | none => exact .nowhere hset fun l hl => assigned?_eq_none.mp (List.findSome?_eq_none_iff.mp hfound l hl)
      | some value =>
        obtain ⟨earlier, line, later, hsplit, hline, hearlier⟩ := List.findSome?_eq_some_iff.mp hfound
        exact .line hset hsplit (fun l hl => assigned?_eq_none.mp (hearlier l hl))
          (assigned?_eq_some.mp hline)

section Adding

variable {e : Environment}

theorem get?_append (name n v : Text) :
    Environment.get? (e ++ [(n, v)]) name = (e.get? name).or (if n = name then some v else none) := by
  unfold get?
  rw [List.find?_append]
  cases e.find? (·.1 = name) with
  | some a => rfl
  | none => by_cases h : n = name <;> simp [h]

/-- The line gives a name its value, and there is a null character in the name or in the value. -/
def SpoiltBy (e : Environment) (line : Text) : Prop :=
  ∃ name value, Assigns line name value ∧ e.get? name = none ∧ Char.ofNat 0 ∈ name ++ value

/-- How a line ends: it spoils the environment, or gives its name a value where there is none. -/
theorem addLine_cases {line : Text} (h : IsNamed line) :
    e.SpoiltBy line ∧ e.addLine line = .error .nullCharacter ∨
      ¬ e.SpoiltBy line ∧
        ∃ e', e.addLine line = .ok e' ∧ ∀ name, e'.get? name = (e.get? name).or (assigned? name line) := by
  unfold addLine assigned? SpoiltBy
  simp only [← assignment?_eq_some]
  cases hline : assignment? line with
  | none => exact .inr ⟨nofun, e, rfl, fun name => by simp⟩
  | some a =>
    obtain ⟨n, v⟩ := a
    have hname : n ≠ [] := ne_nil_of_isNamed h (assignment?_eq_some.mp hline)
    simp only [Option.some.injEq, Prod.mk.injEq, setDefault, Option.bind_some]
    by_cases hset : (e.get? n).isSome
    · obtain ⟨w, hw⟩ := Option.isSome_iff_exists.mp hset
      refine .inr ⟨?_, e, if_pos hset, fun name => ?_⟩
      · rintro ⟨_, _, ⟨rfl, rfl⟩, hunset, -⟩
        rw [hw] at hunset
        cases hunset
      · by_cases heq : n = name
        · rw [← heq, hw, Option.some_or]
        · rw [if_neg heq, Option.or_none]
    · rw [if_neg hset]
      have hunset : e.get? n = none := Option.not_isSome_iff_eq_none.mp hset
      by_cases hnull : Char.ofNat 0 ∈ n ++ v
      · exact .inl ⟨⟨n, v, ⟨rfl, rfl⟩, hunset, hnull⟩, if_pos (List.contains_iff_mem.mpr hnull)⟩
      · refine .inr ⟨?_, e ++ [(n, v)], ?_, fun name => get?_append name n v⟩
        · rintro ⟨_, _, ⟨rfl, rfl⟩, -, hmem⟩
          exact hnull hmem
        · rw [if_neg (mt List.contains_iff_mem.mp hnull), if_neg (by simpa using hname)]

/-- Some line gives a name its value with a null character in it. -/
def IsSpoilt (e : Environment) (ls : List Text) : Prop :=
  ∃ earlier line later name value, ls = earlier ++ line :: later ∧ Assigns line name value ∧
    Gives e earlier name none ∧ Char.ofNat 0 ∈ name ++ value

theorem not_isSpoilt_nil : ¬ e.IsSpoilt [] := by
  rintro ⟨earlier, line, later, name, value, hsplit, -⟩
  simp at hsplit

theorem given?_cons {f : Environment} {line : Text}
    (hf : ∀ name, f.get? name = (e.get? name).or (assigned? name line)) (ls : List Text) (name : Text) :
    e.given? (line :: ls) name = f.given? ls name := by
  rw [given?, given?, hf, Option.or_assoc, List.findSome?_cons]
  cases assigned? name line <;> rfl

/-- The first line spoils the environment, or a later one spoils what the first makes of it. -/
theorem isSpoilt_cons {f : Environment} {line : Text} {ls : List Text}
    (hf : ∀ name, f.get? name = (e.get? name).or (assigned? name line)) :
    e.IsSpoilt (line :: ls) ↔ e.SpoiltBy line ∨ f.IsSpoilt ls := by
  unfold IsSpoilt SpoiltBy
  simp only [gives_iff]
  constructor
  · rintro ⟨earlier, l, later, name, value, hsplit, hline, hunset, hnull⟩
    cases earlier with
    | nil =>
      obtain ⟨rfl, rfl⟩ := List.cons.inj hsplit
      exact .inl ⟨name, value, hline, by simpa [given?] using hunset.symm, hnull⟩
    | cons first earlier =>
      obtain ⟨rfl, rfl⟩ := List.cons.inj hsplit
      exact .inr ⟨earlier, l, later, name, value, rfl, hline, by rw [← given?_cons hf]; exact hunset, hnull⟩
  · rintro (⟨name, value, hline, hunset, hnull⟩ | ⟨earlier, l, later, name, value, rfl, hline, hunset, hnull⟩)
    · exact ⟨[], line, ls, name, value, rfl, hline, by simp [given?, hunset], hnull⟩
    · exact ⟨line :: earlier, l, later, name, value, rfl, hline, by rw [given?_cons hf]; exact hunset, hnull⟩

theorem addLines_cases {ls : List Text} (h : ∀ line ∈ ls, IsNamed line) :
    e.IsSpoilt ls ∧ ls.foldlM addLine e = .error .nullCharacter ∨
      ¬ e.IsSpoilt ls ∧ ∃ e', ls.foldlM addLine e = .ok e' ∧ ∀ name, e'.get? name = e.given? ls name := by
  induction ls generalizing e with
  | nil => exact .inr ⟨not_isSpoilt_nil, e, rfl, fun name => by simp [given?]⟩
  | cons line ls ih =>
    obtain ⟨hline, hls⟩ := List.forall_mem_cons.mp h
    rw [List.foldlM_cons]
    obtain ⟨hspoilt, hend⟩ | ⟨hfine, f, hf, hget⟩ := addLine_cases (e := e) hline
    · obtain ⟨name, value, hassigns, hunset, hnull⟩ := hspoilt
      refine .inl ⟨⟨[], line, ls, name, value, rfl, hassigns, ?_, hnull⟩, by rw [hend]; rfl⟩
      exact .nowhere hunset nofun
    · rw [hf, ok_bind, isSpoilt_cons hget, or_iff_right hfine]
      obtain hspoilt | ⟨hrest, g, hg, hgiven⟩ := ih (e := f) hls
      · exact .inl hspoilt
      · exact .inr ⟨hrest, g, hg, fun name => by rw [hgiven, given?_cons hget]⟩

end Adding

end Environment

/-- An error of a name or a value, as opposed to the absence of a name. -/
def SettingsError.isOfValue : SettingsError → Bool
  | .line _ => false
  | _ => true

namespace Settings

open Environment (Assigns IsNamed Gives IsSpoilt)

/-- The names of the variables that settings are read from. -/
def variableNames : List Text :=
  ["SQLITE_PATH", "SEARCH_REPLICA_PATH", "DEFAULT_PER_PAGE", "LOG_LEVEL", "CHANNELS_BY_NAME",
    "USERS_BY_USERNAME"].map String.toList

section Values

variable (value : Text → Option Text)

/-- The level of the log, in the form in which it is compared. -/
def level : Text := (Text.strip ((value "LOG_LEVEL".toList).getD "INFO".toList)).upper

/-- The text that the size of a page is read from. -/
def perPageText : Text := (value "DEFAULT_PER_PAGE".toList).getD "20".toList

def LevelKnown : Prop := level value ∈ logLevels

def PerPagePositive : Prop := ∃ n, (perPageText value).readInteger = .ok n ∧ 0 < n

/-- Settings as the values of the variables say. A replica has a path that is not blank. -/
structure Follow (s : Settings) : Prop where
  storePath : s.storePath = Text.strip ((value "SQLITE_PATH".toList).getD "data/likesearch.db".toList)
  replicaPath : ∀ path, s.replicaPath = some path ↔
    path = Text.strip ((value "SEARCH_REPLICA_PATH".toList).getD []) ∧ path ≠ []
  perPage : (perPageText value).readInteger = .ok s.perPage
  logLevel : s.logLevel = level value
  channelsByName : s.channelsByName = ((value "CHANNELS_BY_NAME".toList).map Text.meansTrue).getD true
  usersByUsername : s.usersByUsername = ((value "USERS_BY_USERNAME".toList).map Text.meansTrue).getD true

end Values

/-- The settings that the values of the variables make, once the size of a page is read. -/
def ofValues (value : Text → Option Text) (perPage : Int) : Settings :=
  let replica := Text.strip ((value "SEARCH_REPLICA_PATH".toList).getD [])
  { storePath := Text.strip ((value "SQLITE_PATH".toList).getD "data/likesearch.db".toList)
    replicaPath := if replica.isEmpty then none else some replica
    perPage
    logLevel := level value
    channelsByName := flagOf (value "CHANNELS_BY_NAME".toList) true
    usersByUsername := flagOf (value "USERS_BY_USERNAME".toList) true }

theorem follow_ofValues {value : Text → Option Text} {n : Int}
    (h : (perPageText value).readInteger = .ok n) : Follow value (ofValues value n) := by
  constructor
  case perPage => exact h
  case replicaPath =>
    intro path
    simp only [ofValues, List.isEmpty_iff]
    split_ifs with hblank
    · rw [hblank]
      exact iff_of_false nofun fun h => h.2 h.1
    · rw [Option.some.injEq, eq_comm]
      exact (and_iff_left_of_imp fun heq => heq ▸ hblank).symm
  all_goals rfl

theorem ofEnvironment_eq (e : Environment) :
    ofEnvironment e =
      if logLevels.contains (level e.get?) then
        (perPageText e.get?).readInteger.mapError .perPage >>= fun n =>
          if n ≤ 0 then .error .perPageNotPositive else .ok (ofValues e.get? n)
      else .error (.logLevel (level e.get?)) := by
  unfold ofEnvironment
  cases hlevel : logLevels.contains (level e.get?) with
  | true =>
    show (if (!logLevels.contains (level e.get?)) = true then _ else _) = _
    rw [hlevel, if_neg (by decide)]
    rfl
  | false =>
    show (if (!logLevels.contains (level e.get?)) = true then _ else _) = _
    rw [hlevel, if_pos (by decide)]
    rfl

/-- How settings end, by the values of the variables. -/
theorem ofEnvironment_cases (e : Environment) :
    (LevelKnown e.get? ∧ PerPagePositive e.get? ∧ ∃ s, ofEnvironment e = .ok s ∧ Follow e.get? s) ∨
      ¬ (LevelKnown e.get? ∧ PerPagePositive e.get?) ∧
        ∃ err, ofEnvironment e = .error err ∧ err.isOfValue = true := by
  have hknown : logLevels.contains (level e.get?) = true ↔ LevelKnown e.get? := List.contains_iff_mem
  rw [ofEnvironment_eq]
  split_ifs with hlevel
  · cases hread : (perPageText e.get?).readInteger with
    | error err =>
      refine Or.inr ⟨fun h => ?_, .perPage err, rfl, rfl⟩
      obtain ⟨-, n, hn, -⟩ := h
      rw [hread] at hn
      cases hn
    | ok n =>
      simp only [Except.mapError, ok_bind]
      by_cases hn : n ≤ 0
      · rw [if_pos hn]
        refine Or.inr ⟨fun h => ?_, .perPageNotPositive, rfl, rfl⟩
        obtain ⟨-, m, hm, hpositive⟩ := h
        rw [hread] at hm
        obtain rfl := Except.ok.inj hm
        omega
      · rw [if_neg hn]
        exact Or.inl ⟨hknown.mp hlevel, ⟨n, hread, by omega⟩, _, rfl, follow_ofValues hread⟩
  · exact Or.inr ⟨fun h => hlevel (hknown.mpr h.1), _, rfl, rfl⟩

/-- Settings are the same when the values of the six variables are. -/
theorem ofEnvironment_congr {e f : Environment} (h : ∀ name ∈ variableNames, e.get? name = f.get? name) :
    ofEnvironment e = ofEnvironment f := by
  simp only [variableNames, List.map_cons, List.map_nil, List.forall_mem_cons] at h
  obtain ⟨hstore, hreplica, hperPage, hlevel, hchannels, husers, -⟩ := h
  unfold ofEnvironment
  simp only [hstore, hreplica, hperPage, hlevel, hchannels, husers]

/-- The lines of the settings file; without a file there are none. -/
def fileLines (file : Option Text) : List Text := file.elim [] Environment.lines

/-- How settings are loaded: they are spoilt, or made from an environment with the values that are given. -/
theorem load_cases {e : Environment} {file : Option Text} (h : ∀ line ∈ fileLines file, IsNamed line) :
    IsSpoilt e (fileLines file) ∧ load e file = .error .nullCharacter ∨
      ¬ IsSpoilt e (fileLines file) ∧ ∃ f : Environment, load e file = ofEnvironment f ∧
        ∀ name, f.get? name = e.given? (fileLines file) name := by
  cases file with
  | none => exact .inr ⟨Environment.not_isSpoilt_nil, e, rfl, fun name => by simp [Environment.given?, fileLines]⟩
  | some text =>
    show _ ∧ (e.addFile text).mapError SettingsError.ofLine >>= ofEnvironment = _ ∨
      _ ∧ ∃ f, (e.addFile text).mapError SettingsError.ofLine >>= ofEnvironment = _ ∧ _
    obtain ⟨hspoilt, hend⟩ | ⟨hfine, f, hf, hget⟩ := Environment.addLines_cases (e := e) h
    · have hfile : e.addFile text = .error .nullCharacter := hend
      rw [hfile]
      exact .inl ⟨hspoilt, rfl⟩
    · have hfile : e.addFile text = .ok f := hf
      rw [hfile]
      exact .inr ⟨hfine, f, rfl, hget⟩

/-- A line has no part in the values when it assigns to none of the variables but those that have a value
already, in the environment or by a line before it. -/
def IsIdle (e : Environment) (before : List Text) (line : Text) : Prop :=
  ∀ name ∈ variableNames, ∀ value, Assigns line name value →
    (∃ v, e.get? name = some v) ∨ ∃ l ∈ before, ∃ v, Assigns l name v

theorem given?_insert {e : Environment} {before after : List Text} {line name : Text}
    (h : IsIdle e before line) (hname : name ∈ variableNames) :
    e.given? (before ++ line :: after) name = e.given? (before ++ after) name := by
  unfold Environment.given?
  rw [List.findSome?_append, List.findSome?_append, List.findSome?_cons]
  cases hline : Environment.assigned? name line with
  | none => rfl
  | some value =>
    obtain ⟨v, hset⟩ | ⟨l, hl, v, hbefore⟩ := h name hname value (Environment.assigned?_eq_some.mp hline)
    · rw [hset, Option.some_or, Option.some_or]
    · have hfound : (before.findSome? (Environment.assigned? name)).isSome = true := by
        rw [List.findSome?_isSome_iff]
        exact ⟨l, hl, by rw [Environment.assigned?_eq_some.mpr hbefore]; rfl⟩
      obtain ⟨w, hw⟩ := Option.isSome_iff_exists.mp hfound
      rw [hw, Option.some_or, Option.some_or]

/-- Where no line of the settings file assigns to an empty name, a variable has its value in the
environment, else that of the first line that assigns to it, else none. The settings follow these values.
They are refused exactly when the level is not known, the size of a page not positive, or a null character
in what gives some name its value. A line that only assigns to other names, or to a variable with a value,
may stand anywhere or be left out. -/
theorem load_uses_first_given {e : Environment} {file : Option Text}
    (h : ∀ line ∈ fileLines file, IsNamed line) :
    ∃ value : Text → Option Text,
      (∀ name v, Gives e (fileLines file) name v ↔ v = value name) ∧
      (∀ s, load e file = .ok s → Follow value s) ∧
      ((∃ s, load e file = .ok s) ↔
        LevelKnown value ∧ PerPagePositive value ∧ ¬ IsSpoilt e (fileLines file)) ∧
      ((∃ err, load e file = .error err ∧ err.isOfValue = true) ↔
        ¬ LevelKnown value ∨ ¬ PerPagePositive value ∨ IsSpoilt e (fileLines file)) ∧
      (∀ before line after other, fileLines file = before ++ after →
        fileLines other = before ++ line :: after → IsNamed line → IsIdle e before line →
          ¬ IsSpoilt e (fileLines file) → ¬ IsSpoilt e (fileLines other) → load e other = load e file) := by
  refine ⟨e.given? (fileLines file), fun name v => Environment.gives_iff, ?_, ?_, ?_, ?_⟩
  · intro s hs
    obtain ⟨-, hend⟩ | ⟨-, f, hload, hget⟩ := load_cases (e := e) h
    · rw [hend] at hs
      cases hs
    · rw [← funext hget]
      obtain ⟨-, -, t, ht, hfollow⟩ | ⟨-, err, herr, -⟩ := ofEnvironment_cases f
      · rw [hload, ht] at hs
        exact Except.ok.inj hs ▸ hfollow
      · rw [hload, herr] at hs
        cases hs
  · obtain ⟨hspoilt, hend⟩ | ⟨hfine, f, hload, hget⟩ := load_cases (e := e) h
    · rw [hend]
      exact iff_of_false nofun fun hall => hall.2.2 hspoilt
    · rw [← funext hget, hload]
      obtain ⟨hlevel, hperPage, t, ht, -⟩ | ⟨hrefused, err, herr, -⟩ := ofEnvironment_cases f
      · exact iff_of_true ⟨t, ht⟩ ⟨hlevel, hperPage, hfine⟩
      · rw [herr]
        exact iff_of_false nofun fun hall => hrefused ⟨hall.1, hall.2.1⟩
  · obtain ⟨hspoilt, hend⟩ | ⟨hfine, f, hload, hget⟩ := load_cases (e := e) h
    · exact iff_of_true ⟨_, hend, rfl⟩ (.inr (.inr hspoilt))
    · rw [← funext hget, hload, or_iff_left hfine, ← not_and_or]
      obtain ⟨hlevel, hperPage, t, ht, -⟩ | ⟨hrefused, err, herr, hvalue⟩ := ofEnvironment_cases f
      · rw [ht]
        exact iff_of_false nofun (not_not.mpr ⟨hlevel, hperPage⟩)
      · exact iff_of_true ⟨err, herr, hvalue⟩ hrefused
  · intro before line after other hfile hother hline hidle hfine hfineOther
    have hnamed : ∀ l ∈ fileLines other, IsNamed l := by
      rw [hfile] at h
      rw [hother]
      intro l hl
      rw [List.mem_append, List.mem_cons, or_left_comm] at hl
      obtain rfl | hl := hl
      · exact hline
      · exact h l (List.mem_append.mpr hl)
    obtain ⟨-, f, hload, hget⟩ := (load_cases h).resolve_left fun hspoilt => hfine hspoilt.1
    obtain ⟨-, g, hloadOther, hgetOther⟩ := (load_cases hnamed).resolve_left fun hspoilt => hfineOther hspoilt.1
    rw [hload, hloadOther]
    apply ofEnvironment_congr
    intro name hname
    rw [hget, hgetOther, hfile, hother, given?_insert hidle hname]

/-- A settings file with a comment, quotes, a line that assigns nothing, and a level that comes too late. -/
def sampleFile : Text :=
  Text.join ['\n'] (["# LOG_LEVEL=loud", "LOG_LEVEL = \"'debug'\"", "plain", "LOG_LEVEL=l\x00",
    "DEFAULT_PER_PAGE=' 5 '", "SQLITE_PATH=a.db"].map String.toList)

/-- The environment comes first, even with an empty value, and then the first line for a name. The null
character stands in a line that comes too late. -/
theorem load_uses_first_given_sample :
    (∀ line ∈ fileLines (some sampleFile), IsNamed line) ∧
      ∃ s, load [("SQLITE_PATH".toList, [])] (some sampleFile) = .ok s ∧ s.storePath = [] ∧
        s.logLevel = "DEBUG".toList ∧ (5 : Int) = s.perPage ∧ s.channelsByName = true := by
  have hnamed : ∀ line ∈ fileLines (some sampleFile), IsNamed line := by decide +kernel
  obtain ⟨value, hgives, hfollow, hok, -⟩ :=
    load_uses_first_given (e := [("SQLITE_PATH".toList, [])]) hnamed
  have hvalue (name : Text) : value name =
      Environment.given? [("SQLITE_PATH".toList, [])] (fileLines (some sampleFile)) name :=
    ((hgives name _).mp (Environment.gives_iff.mpr rfl)).symm
  have hlevel : level value = "DEBUG".toList := by
    unfold level
    rw [hvalue]
    decide +kernel
  have hperPage : (perPageText value).readInteger = .ok 5 := by
    unfold perPageText
    rw [hvalue]
    decide +kernel
  have hfine : ¬ IsSpoilt [("SQLITE_PATH".toList, [])] (fileLines (some sampleFile)) := by
    obtain ⟨-, hend⟩ | ⟨hfine, -⟩ := load_cases (e := [("SQLITE_PATH".toList, [])]) hnamed
    · exact absurd hend (by decide +kernel)
    · exact hfine
  obtain ⟨s, hs⟩ := hok.mpr ⟨by rw [LevelKnown, hlevel]; decide, ⟨5, hperPage, by decide⟩, hfine⟩
  have hs' := hfollow s hs
  refine ⟨hnamed, s, hs, ?_, hs'.logLevel.trans hlevel, ?_, ?_⟩
  · rw [hs'.storePath, hvalue]
    decide +kernel
  · exact Except.ok.inj (hperPage.symm.trans hs'.perPage)
  · rw [hs'.channelsByName, hvalue]
    decide +kernel

/-- A null character in a value is refused, whatever the variables are. -/
theorem null_character_is_refused :
    (∀ line ∈ Environment.lines "NOTE=a\x00b".toList, IsNamed line) ∧
      (∀ name ∈ variableNames, Gives [] (Environment.lines "NOTE=a\x00b".toList) name none) ∧
      LevelKnown (fun _ => none) ∧ PerPagePositive (fun _ => none) ∧
      load [] (some "NOTE=a\x00b".toList) = .error .nullCharacter ∧
      SettingsError.isOfValue .nullCharacter = true := by
  have hvalues : ∀ name ∈ variableNames,
      none = Environment.given? [] (Environment.lines "NOTE=a\x00b".toList) name := by decide +kernel
  refine ⟨by decide +kernel, fun name hname => Environment.gives_iff.mpr (hvalues name hname), ?_, ?_, ?_, rfl⟩
  · unfold LevelKnown
    decide +kernel
  · exact ⟨20, by decide +kernel, by decide⟩
  · decide +kernel

end Settings

end ChannelSearch
