import ChannelSearch.Export.Load
import ChannelSearch.Proofs.RowWrites
import ChannelSearch.Proofs.SearchRuns

/-!
How imports run. A step is told by what its completed runs leave behind, its log aside; sequences and
loops follow from their steps.
-/

namespace ChannelSearch

section MapM

variable {ε α β : Type} {f : α → Except ε β} {as : List α} {bs : List β}

/-- A list is read when each of its values is. -/
theorem mapM_cons_eq_ok {a : α} :
    (a :: as).mapM f = .ok bs ↔ ∃ r rs, f a = .ok r ∧ as.mapM f = .ok rs ∧ bs = r :: rs := by
  rw [List.mapM_cons, bind_eq_ok]
  simp only [bind_eq_ok]
  constructor
  · rintro ⟨r, hr, rs, hrs, hbs⟩
    exact ⟨r, rs, hr, hrs, (Except.ok.inj hbs).symm⟩
  · rintro ⟨r, rs, hr, hrs, rfl⟩
    exact ⟨r, hr, rs, hrs, rfl⟩

theorem length_of_mapM (h : as.mapM f = .ok bs) : bs.length = as.length := by
  induction as generalizing bs with
  | nil =>
    obtain rfl := Except.ok.inj h
    rfl
  | cons a as ih =>
    obtain ⟨r, rs, -, hrs, rfl⟩ := mapM_cons_eq_ok.mp h
    rw [List.length_cons, List.length_cons, ih hrs]

theorem exists_of_mapM (h : as.mapM f = .ok bs) : ∀ a ∈ as, ∃ b, f a = .ok b := by
  induction as generalizing bs with
  | nil => exact nofun
  | cons a as ih =>
    obtain ⟨r, rs, hr, hrs, -⟩ := mapM_cons_eq_ok.mp h
    exact List.forall_mem_cons.mpr ⟨⟨r, hr⟩, ih hrs⟩

theorem exists_mapM {P : β → Prop} (h : ∀ a ∈ as, ∃ b, f a = .ok b ∧ P b) :
    ∃ bs, as.mapM f = .ok bs ∧ ∀ b ∈ bs, P b := by
  induction as with
  | nil => exact ⟨[], rfl, nofun⟩
  | cons a as ih =>
    obtain ⟨⟨r, hr, hP⟩, has⟩ := List.forall_mem_cons.mp h
    obtain ⟨rs, hrs, hPs⟩ := ih has
    exact ⟨r :: rs, mapM_cons_eq_ok.mpr ⟨r, rs, hr, hrs, rfl⟩, List.forall_mem_cons.mpr ⟨hP, hPs⟩⟩

end MapM

/-- What an import has done so far, its log aside. -/
def ImportProgress.kept (p : ImportProgress) : Store × ImportStats := (p.store, p.stats)

namespace Import

variable {α β : Type} {p p' : ImportProgress}

/-- How a step ends, and the progress it leaves. -/
def runFrom (x : Import α) (p : ImportProgress) : Except ImportError α × ImportProgress :=
  ExceptT.run x p

@[simp] theorem runFrom_pure (a : α) : (pure a : Import α).runFrom p = (.ok a, p) := rfl

@[simp] theorem runFrom_read (x : Except ImportError α) : (read x).runFrom p = (x, p) := rfl

@[simp] theorem runFrom_count (f : ImportStats → ImportStats) :
    (count f).runFrom p = (.ok (), { p with stats := f p.stats }) := rfl

@[simp] theorem runFrom_log (level : LogLevel) (message : Text) :
    (log level message).runFrom p = (.ok (), { p with logs := p.logs ++ [⟨level, .imports, message⟩] }) :=
  rfl

theorem runFrom_bind (x : Import α) (f : α → Import β) :
    (x >>= f).runFrom p =
      match x.runFrom p with
      | (.ok a, q) => (f a).runFrom q
      | (.error e, q) => (.error e, q) := by
  unfold runFrom ExceptT.run
  simp only [bind, ExceptT.bind, ExceptT.mk, StateT.bind, ExceptT.bindCont]
  cases x p with
  | mk result q => cases result <;> rfl

theorem runFrom_bind_of_ok {x : Import α} {f : α → Import β} {a : α} (h : x.runFrom p = (.ok a, p')) :
    (x >>= f).runFrom p = (f a).runFrom p' := by
  rw [runFrom_bind, h]

theorem runFrom_bind_of_error {x : Import α} {f : α → Import β} {e : ImportError}
    (h : x.runFrom p = (.error e, p')) : (x >>= f).runFrom p = (.error e, p') := by
  rw [runFrom_bind, h]

/-- A sequence completes when its parts do. -/
theorem runFrom_bind_eq_ok {x : Import α} {f : α → Import β} {b : β} :
    (x >>= f).runFrom p = (.ok b, p') ↔ ∃ a q, x.runFrom p = (.ok a, q) ∧ (f a).runFrom q = (.ok b, p') := by
  rw [runFrom_bind]
  cases hx : x.runFrom p with
  | mk result q => cases result <;> simp

theorem runFrom_write (w : Write) :
    (write w).runFrom p =
      match p.store.write w with
      | .ok store => (.ok (), { p with store })
      | .error e => (.error (.write e), p) := by
  show runFrom (match p.store.write w with
    | .ok store => modify fun p => { p with store }
    | .error e => throw (.write e)) p = _
  cases p.store.write w <;> rfl

/-- The step for each of a list of values. -/
def each (f : Json → Import Unit) (vs : List Json) : Import Unit := do
  for v in vs do f v

@[simp] theorem each_nil (f : Json → Import Unit) : each f [] = pure () := rfl

@[simp] theorem each_cons (f : Json → Import Unit) (v : Json) (vs : List Json) :
    each f (v :: vs) = f v >>= fun _ => each f vs := by
  simp only [each, List.forIn_cons, bind_assoc, pure_bind]

theorem each_append (f : Json → Import Unit) (vs ws : List Json) :
    each f (vs ++ ws) = each f vs >>= fun _ => each f ws := by
  induction vs with
  | nil => simp
  | cons v vs ih => simp [ih, bind_assoc]

/-- The completed runs of a step, logs aside, are those of a relation between what is kept before, the
value that is returned, and what is kept after. -/
def Does (x : Import α) (R : Store × ImportStats → α → Store × ImportStats → Prop) : Prop :=
  ∀ p a t, (∃ p', x.runFrom p = (.ok a, p') ∧ p'.kept = t) ↔ R p.kept a t

section Does

variable {x : Import α} {R R' : Store × ImportStats → α → Store × ImportStats → Prop}

theorem Does.congr (h : x.Does R) (hR : ∀ s a t, R s a t ↔ R' s a t) : x.Does R' :=
  fun p a t => (h p a t).trans (hR p.kept a t)

/-- A step that returns the same with the same progress, its log aside. -/
theorem does_of_run {a : α} {g : Store × ImportStats → Store × ImportStats}
    (h : ∀ p, ∃ p', x.runFrom p = (.ok a, p') ∧ p'.kept = g p.kept) :
    x.Does fun s b t => b = a ∧ t = g s := by
  intro p b t
  obtain ⟨q, hq, hkept⟩ := h p
  constructor
  · rintro ⟨p', hp, rfl⟩
    rw [hq] at hp
    obtain ⟨hb, rfl⟩ := Prod.mk.inj hp
    exact ⟨(Except.ok.inj hb).symm, hkept⟩
  · rintro ⟨rfl, rfl⟩
    exact ⟨q, hq, hkept⟩

theorem does_pure (a : α) : (pure a : Import α).Does fun s b t => b = a ∧ t = s :=
  does_of_run fun p => ⟨p, rfl, rfl⟩

theorem does_count (f : ImportStats → ImportStats) :
    (count f).Does fun s _ t => t = (s.1, f s.2) :=
  (does_of_run (g := fun s => (s.1, f s.2)) fun _ => ⟨_, runFrom_count f, rfl⟩).congr (by simp)

theorem does_log (level : LogLevel) (message : Text) : (log level message).Does fun s _ t => t = s :=
  (does_of_run (g := id) fun _ => ⟨_, runFrom_log level message, rfl⟩).congr (by simp)

theorem does_read (y : Except ImportError α) : (read y).Does fun s a t => y = .ok a ∧ t = s := by
  intro p a t
  simp only [runFrom_read, Prod.mk.injEq]
  constructor
  · rintro ⟨p', ⟨hy, rfl⟩, rfl⟩
    exact ⟨hy, rfl⟩
  · rintro ⟨hy, rfl⟩
    exact ⟨p, ⟨hy, rfl⟩, rfl⟩

theorem does_write (w : Write) :
    (write w).Does fun s _ t => s.1.write w = .ok t.1 ∧ t.2 = s.2 := by
  intro p a t
  rw [runFrom_write]
  cases hw : p.store.write w with
  | error e => simp [ImportProgress.kept, hw]
  | ok store =>
    simp only [ImportProgress.kept, hw, Except.ok.injEq]
    constructor
    · rintro ⟨p', hp, rfl⟩
      obtain ⟨-, rfl⟩ := Prod.mk.inj hp
      exact ⟨rfl, rfl⟩
    · rintro ⟨hstore, hstats⟩
      exact ⟨_, rfl, Prod.ext hstore hstats.symm⟩

/-- A write that is never refused. -/
theorem does_write_of_ok {w : Write} {g : Store → Store} (h : ∀ s : Store, s.write w = .ok (g s)) :
    (write w).Does fun s _ t => t = (g s.1, s.2) := by
  refine (does_write w).congr fun s _ t => ?_
  rw [h, Except.ok.injEq, Prod.ext_iff, eq_comm]

/-- A sequence does what its parts do. -/
theorem Does.bind {f : α → Import β} {Q : α → Store × ImportStats → β → Store × ImportStats → Prop}
    (hx : x.Does R) (hf : ∀ a, (f a).Does (Q a)) :
    (x >>= f).Does fun s b t => ∃ a u, R s a u ∧ Q a u b t := by
  intro p b t
  constructor
  · rintro ⟨p', hp, hkept⟩
    obtain ⟨a, q, hq, hp⟩ := runFrom_bind_eq_ok.mp hp
    exact ⟨a, q.kept, (hx p a q.kept).mp ⟨q, hq, rfl⟩, (hf a q b t).mp ⟨p', hp, hkept⟩⟩
  · rintro ⟨a, u, hR, hQ⟩
    obtain ⟨q, hq, rfl⟩ := (hx p a u).mpr hR
    obtain ⟨p', hp, hkept⟩ := (hf a q b t).mpr hQ
    exact ⟨p', runFrom_bind_eq_ok.mpr ⟨a, q, hq, hp⟩, hkept⟩

/-- After a value is read, a sequence does what the rest does with it. -/
theorem does_read_bind (y : Except ImportError α) {f : α → Import β}
    {Q : α → Store × ImportStats → β → Store × ImportStats → Prop} (hf : ∀ a, (f a).Does (Q a)) :
    (read y >>= f).Does fun s b t => ∃ a, y = .ok a ∧ Q a s b t := by
  refine ((does_read y).bind hf).congr fun s b t => ?_
  constructor
  · rintro ⟨a, u, ⟨hy, rfl⟩, hQ⟩
    exact ⟨a, hy, hQ⟩
  · rintro ⟨a, hy, hQ⟩
    exact ⟨a, s, ⟨hy, rfl⟩, hQ⟩

/-- A step that first looks at the store. -/
theorem does_get_ite {c : Store → Prop} [DecidablePred c] {y : Import α}
    (hx : x.Does R) (hy : y.Does R') :
    (get >>= fun p : ImportProgress => if c p.store then x else y).Does fun s a t =>
      if c s.1 then R s a t else R' s a t := by
  intro p a t
  show (∃ p', (if c p.store then x else y).runFrom p = (.ok a, p') ∧ p'.kept = t) ↔
    if c p.store then R p.kept a t else R' p.kept a t
  split_ifs
  · exact hx p a t
  · exact hy p a t

/-- Where each step makes a change by what its value is read as, the loop makes them one after the
other. -/
theorem does_each {ρ : Type} {f : Json → Import Unit} {reads : Json → Except ImportError ρ}
    {g : Store × ImportStats → ρ → Store × ImportStats}
    (h : ∀ v, (f v).Does fun s _ t => ∃ r, reads v = .ok r ∧ t = g s r) (vs : List Json) :
    (each f vs).Does fun s _ t => ∃ rs, vs.mapM reads = .ok rs ∧ t = rs.foldl g s := by
  induction vs with
  | nil =>
    refine (does_pure ()).congr fun s _ t => ?_
    constructor
    · rintro ⟨-, rfl⟩
      exact ⟨[], rfl, rfl⟩
    · rintro ⟨rs, hrs, rfl⟩
      obtain rfl := Except.ok.inj hrs
      exact ⟨rfl, rfl⟩
  | cons v vs ih =>
    rw [each_cons]
    refine ((h v).bind fun _ => ih).congr fun s _ t => ?_
    constructor
    · rintro ⟨-, u, ⟨r, hr, rfl⟩, rs, hrs, rfl⟩
      exact ⟨r :: rs, mapM_cons_eq_ok.mpr ⟨r, rs, hr, hrs, rfl⟩, rfl⟩
    · rintro ⟨_, hall, rfl⟩
      obtain ⟨r, rs, hr, hrs, rfl⟩ := mapM_cons_eq_ok.mp hall
      exact ⟨(), _, ⟨r, hr, rfl⟩, rs, hrs, rfl⟩

theorem does_each_row {ρ : Type} {f : Json → Import Unit} (row : Json → ρ)
    (g : Store × ImportStats → ρ → Store × ImportStats)
    (h : ∀ v, (f v).Does fun s _ t => t = g s (row v)) (vs : List Json) :
    (each f vs).Does fun s _ t => t = (vs.map row).foldl g s := by
  induction vs with
  | nil => exact (does_pure ()).congr fun s _ t => and_iff_right rfl
  | cons v vs ih =>
    rw [each_cons]
    refine ((h v).bind fun _ => ih).congr fun s _ t => ?_
    simp

end Does

end Import

end ChannelSearch
