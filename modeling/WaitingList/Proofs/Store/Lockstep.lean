import WaitingList.Proofs.Store.Server
import WaitingList.Store.Migration

namespace WaitingList

/-- Relations between two servers and between what their databases hold that statements keep,
upserts aside. A migration asks of a database whether there is a table and what was applied, so on
these two sides of a pair have to agree. -/
structure Lockstep (R : Server → Server → Prop) (D : Database → Database → Prop) : Prop where
  struck : ∀ {s s'}, R s s' → ∀ {statement : Statement}, statement ≠ .upsert →
    (s'.struck? statement).isSome = (s.struck? statement).isSome
  disarm : ∀ {s s'}, R s s' → R s.disarm s'.disarm
  database : ∀ {s s'}, R s s' → ∀ name, D (s.database name) (s'.database name)
  setDatabase : ∀ {s s' d d'}, R s s' → D d d' → ∀ name,
    R (s.setDatabase name d) (s'.setDatabase name d')
  table : ∀ {d d'}, D d d' → d'.rows.isSome = d.rows.isSome
  applied : ∀ {d d'}, D d d' → d'.applied = d.applied
  created : ∀ {d d'}, D d d' → D { d with rows := some [] } { d' with rows := some [] }
  noted : ∀ {d d'}, D d d' → ∀ applied, D { d with applied } { d' with applied }

namespace ServerWork

variable {ε ε' α β : Type} {R : Server → Server → Prop} {D : Database → Database → Prop}
  {Q : α → α → Prop} {Q' : β → β → Prop}

/-- Outcomes that are both of success or both of failure, on servers that are still alike. What the
errors say is not compared. -/
inductive Met (R : Server → Server → Prop) (Q : α → α → Prop) :
    Except ε α × Server → Except ε α × Server → Prop where
  | ok {a a' : α} {s s' : Server} (hresult : Q a a') (hafter : R s s') :
      Met R Q (.ok a, s) (.ok a', s')
  | error {error error' : ε} {s s' : Server} (hafter : R s s') :
      Met R Q (.error error, s) (.error error', s')

/-- Two pieces of work that meet from servers that are alike. -/
def Meet (R : Server → Server → Prop) (Q : α → α → Prop) (work work' : ServerWork ε α) : Prop :=
  ∀ s s' : Server, R s s' → Met R Q (work.outcome s) (work'.outcome s')

namespace Meet

theorem bind {work work' : ServerWork ε α} {next next' : α → ServerWork ε β}
    (hwork : Meet R Q work work') (hnext : ∀ a a', Q a a' → Meet R Q' (next a) (next' a')) :
    Meet R Q' (work >>= next) (work' >>= next') := by
  intro s s' halike
  have hmet := hwork s s' halike
  rw [outcome_bind, outcome_bind]
  generalize work.outcome s = outcome at hmet ⊢
  generalize work'.outcome s' = outcome' at hmet ⊢
  cases hmet with
  | ok hresult hafter => exact hnext _ _ hresult _ _ hafter
  | error hafter => exact .error hafter

theorem throw_bind {error error' : ε} {next next' : α → ServerWork ε β} :
    Meet R Q' (MonadExcept.throw error >>= next) (MonadExcept.throw error' >>= next') := by
  intro s s' halike
  rw [outcome_bind, outcome_bind]
  exact .error halike

theorem adapt {work work' : ServerWork ε α} (f : ε → ε') (hwork : Meet R Q work work') :
    Meet R Q (ExceptT.adapt f work : ServerWork ε' α) (ExceptT.adapt f work') := by
  intro s s' halike
  have hmet := hwork s s' halike
  rw [outcome_adapt, outcome_adapt]
  generalize work.outcome s = outcome at hmet ⊢
  generalize work'.outcome s' = outcome' at hmet ⊢
  cases hmet with
  | ok hresult hafter => exact .ok hresult hafter
  | error hafter => exact .error hafter

/-- Recovery has to bring the two together again, whatever the two errors say. -/
theorem tryCatch {work work' : ServerWork ε α} {handler handler' : ε → ServerWork ε α}
    (hwork : Meet R Q work work')
    (hhandler : ∀ error error', Meet R Q (handler error) (handler' error')) :
    Meet R Q (MonadExcept.tryCatch work handler) (MonadExcept.tryCatch work' handler') := by
  intro s s' halike
  have hmet := hwork s s' halike
  rw [outcome_tryCatch, outcome_tryCatch]
  generalize work.outcome s = outcome at hmet ⊢
  generalize work'.outcome s' = outcome' at hmet ⊢
  cases hmet with
  | ok hresult hafter => exact .ok hresult hafter
  | error hafter => exact hhandler _ _ _ _ hafter

end Meet

end ServerWork

namespace Migration

open ServerWork

section Lockstep

variable {R : Server → Server → Prop} {D : Database → Database → Prop} (hlock : Lockstep R D)

include hlock

theorem attemptIn_meet (name : String) {statement : Statement} (hother : statement ≠ .upsert) :
    Meet R D (attemptIn name statement) (attemptIn name statement) := by
  intro s s' halike
  have htouched := hlock.setDatabase halike (hlock.database halike name) name
  have hstruck := hlock.struck halike hother
  rw [outcome_attemptIn, outcome_attemptIn]
  cases hmine : s.struck? statement with
  | none =>
    rw [hmine, Option.isSome_none, Option.isSome_eq_false_iff, Option.isNone_iff_eq_none] at hstruck
    rw [hstruck]
    exact .ok (hlock.database halike name) htouched
  | some failure =>
    rw [hmine, Option.isSome_some] at hstruck
    obtain ⟨failure', hyours⟩ := Option.isSome_iff_exists.mp hstruck
    rw [hyours]
    exact .error (hlock.disarm htouched)

theorem put_meet (name : String) {d d' : Database} (hd : D d d') :
    Meet R (fun _ _ => True) (put name d) (put name d') :=
  fun _ _ halike => .ok trivial (hlock.setDatabase halike hd name)

theorem execute_meet (name : String) {statement : Statement} (hother : statement ≠ .upsert) :
    Meet R D (execute name statement) (execute name statement) :=
  (attemptIn_meet hlock name hother).adapt _

theorem onLock_meet (name : String) {statement : Statement} (hother : statement ≠ .upsert) :
    Meet R (fun _ _ => True) (onLock name statement) (onLock name statement) := by
  refine (execute_meet hlock name (by decide)).bind fun _ _ _ => ?_
  refine (execute_meet hlock name hother).bind fun _ _ _ => ?_
  exact fun _ _ halike => .ok trivial halike

theorem createTable_meet (name : String) :
    Meet R (fun _ _ => True) (createTable name) (createTable name) := by
  refine (attemptIn_meet hlock name (by decide)).bind fun d d' hd => ?_
  rw [hlock.table hd]
  dsimp only
  split
  · exact .throw_bind
  · exact put_meet hlock name (hlock.created hd)

theorem note_meet (name : String) : Meet R (fun _ _ => True) (note name) (note name) := by
  refine (attemptIn_meet hlock name (by decide)).bind fun d d' hd => ?_
  rw [hlock.applied hd]
  exact put_meet hlock name (hlock.noted hd _)

/-- Both transactions are brought to their end, or both are taken back. -/
theorem apply_meet (name : String) : Meet R (fun _ _ => True) (apply name) (apply name) := by
  refine (execute_meet hlock name (by decide)).bind fun before before' hbefore => ?_
  refine .tryCatch ?_ ?_
  · refine ((createTable_meet hlock name).adapt _).bind fun _ _ _ => ?_
    exact (note_meet hlock name).adapt _
  · intro error error' s s' halike
    exact .error (hlock.setDatabase halike hbefore name)

/-- A migration keeps two servers alike, and succeeds on both or on neither. -/
theorem run_meet (name : String) : Meet R (fun _ _ => True) (run name) (run name) := by
  refine (onLock_meet hlock name (by decide)).bind fun _ _ _ => ?_
  refine (execute_meet hlock name (by decide)).bind fun _ _ _ => ?_
  refine (execute_meet hlock name (by decide)).bind fun d d' hd => ?_
  rw [hlock.applied hd]
  dsimp only
  split
  · exact .throw_bind
  refine (execute_meet hlock name (by decide)).bind fun d d' hd => ?_
  rw [hlock.applied hd]
  split
  · exact .throw_bind
  split
  · exact (apply_meet hlock name).bind fun _ _ _ => onLock_meet hlock name (by decide)
  · exact onLock_meet hlock name (by decide)

end Lockstep

end Migration

end WaitingList
