import WaitingList.Proofs.Store.Server
import WaitingList.Store.Migration

namespace WaitingList

namespace Server

/-- A server that holds what another one holds and waits with the same failure. -/
structure Awaits (s after : Server) : Prop extends s.Agrees after where
  armed : after.armed = s.armed

namespace Awaits

theorem refl (s : Server) : s.Awaits s := ⟨.refl s, rfl⟩

theorem struck? {s after : Server} (h : s.Awaits after) (statement : Statement) :
    after.struck? statement = s.struck? statement := by
  rw [Server.struck?, Server.struck?, h.armed]

theorem touch {s after : Server} (h : s.Awaits after) (name : String) :
    s.Awaits (after.touch name) :=
  ⟨h.toAgrees.trans (.touch after name), (after.armed_touch name).trans h.armed⟩

end Awaits

/-- A migration was applied to a database: it has a table without rows and a record of the
migration behind its earlier ones. Nothing else that the server holds changes. -/
structure Migrated (s after : Server) (name : String) : Prop extends s.AgreesBeside after name where
  rows : (s.database name).rows = none
  database : after.database name =
    ⟨some [], (s.database name).applied ++ [Migration.record]⟩

theorem Migrated.of_agrees {s after last : Server} {name : String} (h : s.Migrated after name)
    (hlast : after.Agrees last) : s.Migrated last name where
  rows := h.rows
  database := (hlast.database name).trans h.database
  others other hother := (hlast.database other).trans (h.others other hother)
  writes := hlast.writes.trans h.writes
  password := hlast.password.trans h.password

end Server

/-- A failure that waits for statements of one kind waits for no others. -/
theorem Failure.hits_of_ne {failure : Failure} {statement other : Statement}
    (hhits : failure.hits statement = true) (hother : statement ≠ other) :
    failure.hits other = false := by
  have hkind : failure.kind = statement.name := by simpa [Failure.hits] using hhits
  rw [Failure.hits, hkind]
  cases statement <;> cases other <;> first | exact absurd rfl hother | decide

namespace Migration

open ServerWork

theorem lowest?_eq_none_iff {applied : List MigrationRecord} {p : MigrationRecord → Bool} :
    lowest? applied p = none ↔ ∀ record ∈ applied, p record = false := by
  simp [lowest?]

/-- Nothing is unfinished exactly if every record is of a finished migration. -/
theorem unfinished?_eq_none_iff {applied : List MigrationRecord} :
    unfinished? applied = none ↔ ∀ record ∈ applied, record.success = true := by
  simp [unfinished?, lowest?_eq_none_iff]

/-- Nothing is foreign exactly if every record is of the known migration with its contents. -/
theorem foreign?_eq_none_iff {applied : List MigrationRecord} :
    foreign? applied = none ↔
      ∀ record ∈ applied, record.version = version ∧ record.unaltered = true := by
  constructor
  · intro hforeign
    unfold foreign? at hforeign
    split at hforeign
    · cases hforeign
    · cases hforeign
    next hversion hcontents =>
      rw [lowest?_eq_none_iff] at hversion hcontents
      intro record hrecord
      exact ⟨by simpa using hversion record hrecord, by simpa using hcontents record hrecord⟩
  · intro hknown
    have hversion : lowest? applied (·.version != version) = none :=
      lowest?_eq_none_iff.mpr fun record hrecord => by simp [(hknown record hrecord).1]
    have hcontents : lowest? applied (!·.unaltered) = none :=
      lowest?_eq_none_iff.mpr fun record hrecord => by simp [(hknown record hrecord).2]
    simp [foreign?, hversion, hcontents]

/-- The statements that bringing a database up to date runs where nothing speaks against it. -/
def statements (d : Database) : List Statement :=
  [.currentDatabase, .advisoryLock, .ensureRecords, .dirtyMigration, .appliedMigrations] ++
    (if d.applied.isEmpty then [.begin, .migration, .bookkeeping] else []) ++
    [.currentDatabase, .advisoryUnlock]

/-- What a migration can be applied to, or finds applied: every record is of the known migration,
with its contents and finished, and where there is no record there is no table yet. -/
structure Sound (d : Database) : Prop where
  finished : ∀ record ∈ d.applied, record.success = true
  known : ∀ record ∈ d.applied, record.version = version ∧ record.unaltered = true
  fresh : d.applied = [] → d.rows = none

/-- What it takes for a migration to come to the point where it gives its lock back. -/
structure Ready (s : Server) (name : String) : Prop where
  sound : Sound (s.database name)
  unstruck : ∀ statement ∈ statements (s.database name), statement ≠ .advisoryUnlock →
    s.struck? statement = none

/-- What it takes for a database to be brought up to date: it is sound, and the failure that waits
is for none of the statements. -/
structure Clear (s : Server) (name : String) : Prop where
  sound : Sound (s.database name)
  unstruck : ∀ statement ∈ statements (s.database name), s.struck? statement = none

theorem Clear.ready {s : Server} {name : String} (h : Clear s name) : Ready s name :=
  ⟨h.sound, fun statement hstatement _ => h.unstruck statement hstatement⟩

theorem Clear.unlock {s : Server} {name : String} (h : Clear s name) :
    s.struck? .advisoryUnlock = none :=
  h.unstruck .advisoryUnlock (by simp [statements])

theorem Ready.clear {s : Server} {name : String} (h : Ready s name)
    (hunlock : s.struck? .advisoryUnlock = none) : Clear s name := by
  refine ⟨h.sound, fun statement hstatement => ?_⟩
  by_cases hlast : statement = .advisoryUnlock
  · exact hlast ▸ hunlock
  · exact h.unstruck statement hstatement hlast

/-- A failure waits for one kind of statements, so one that waits for the lock to be given back lets
all others pass. -/
theorem Ready.of_struck {s : Server} {name : String} (hsound : Sound (s.database name))
    (hstruck : s.struck? .advisoryUnlock ≠ none) : Ready s name := by
  refine ⟨hsound, fun statement _ hother => ?_⟩
  obtain ⟨failure, hfailure⟩ := Option.ne_none_iff_exists'.mp hstruck
  obtain ⟨harmed, hhits⟩ := Option.filter_eq_some_iff.mp hfailure
  have hmiss : failure.hits statement = false := Failure.hits_of_ne hhits (Ne.symm hother)
  simp [Server.struck?, harmed, hmiss]

/-- A statement around the migration says what the database holds, unless the failure that waits
is for it. -/
theorem execute_ends {s now : Server} (hnow : s.Awaits now) (name : String)
    (statement : Statement) :
    (execute name statement).Ends now
      (fun d after => d = s.database name ∧ s.Awaits after ∧ s.struck? statement = none)
      (fun after => s.Agrees after ∧ s.struck? statement ≠ none) := by
  apply Ends.adapt
  rw [Ends, outcome_attemptIn, hnow.struck?]
  cases hstruck : s.struck? statement with
  | some failure => exact ⟨(hnow.touch name).toAgrees.trans (.disarm _), by simp⟩
  | none => exact ⟨hnow.database name, hnow.touch name, rfl⟩

/-- A statement on the lock only fails if the failure that waits is for it or for the question that
comes before it. -/
theorem onLock_ends {s now : Server} (hnow : s.Awaits now) (name : String)
    (statement : Statement) :
    (onLock name statement).Ends now
      (fun _ after => s.Awaits after ∧ s.struck? .currentDatabase = none ∧
        s.struck? statement = none)
      (fun after => s.Agrees after ∧
        ¬ (s.struck? .currentDatabase = none ∧ s.struck? statement = none)) := by
  refine Ends.bind ((execute_ends hnow name .currentDatabase).mono (fun _ _ h => h) ?_) ?_
  · rintro after ⟨hagrees, hstruck⟩
    exact ⟨hagrees, fun hnone => hstruck hnone.1⟩
  rintro _ asked ⟨_, hasked, hcurrent⟩
  refine Ends.bind ((execute_ends hasked name statement).mono (fun _ _ h => h) ?_) ?_
  · rintro after ⟨hagrees, hstruck⟩
    exact ⟨hagrees, fun hnone => hstruck hnone.2⟩
  rintro _ done ⟨_, hdone, hstatement⟩
  exact ⟨hdone, hcurrent, hstatement⟩

/-- Making the table only succeeds where there is none. -/
theorem createTable_ends {s now : Server} (hnow : s.Awaits now) (name : String) :
    (createTable name).Ends now
      (fun _ after => (s.struck? .migration = none ∧ (s.database name).rows = none) ∧
        after.database name = { s.database name with rows := some [] } ∧
        s.AgreesBeside after name ∧ after.armed = s.armed)
      (fun after => s.AgreesBeside after name ∧
        ¬ (s.struck? .migration = none ∧ (s.database name).rows = none)) := by
  rw [Ends, createTable, outcome_bind, outcome_attemptIn, hnow.struck?]
  have htouched := hnow.touch name
  cases s.struck? .migration with
  | some failure => exact ⟨.of_agrees (htouched.toAgrees.trans (.disarm _)) name, by simp⟩
  | none =>
    cases hrows : (s.database name).rows with
    | some rows =>
      simpa [hnow.database, hrows, outcome_bind] using
        Server.AgreesBeside.of_agrees htouched.toAgrees name
    | none =>
      simp only [hnow.database, hrows, Option.isSome_none]
      refine ⟨⟨trivial, trivial⟩, ?_,
        (Server.AgreesBeside.of_agrees htouched.toAgrees name).setDatabase _, ?_⟩
      · exact (Server.database_setDatabase ..).trans (if_pos rfl)
      · exact (Server.armed_setDatabase ..).trans htouched.armed

/-- Noting the migration adds a record behind the earlier ones. -/
theorem note_ends {s now : Server} {name : String} (hnow : s.AgreesBeside now name)
    (harmed : now.armed = s.armed) :
    (note name).Ends now
      (fun _ after => s.struck? .bookkeeping = none ∧ after.database name =
          { now.database name with applied := (now.database name).applied ++ [record] } ∧
        s.AgreesBeside after name ∧ after.armed = s.armed)
      (fun after => s.AgreesBeside after name ∧ s.struck? .bookkeeping ≠ none) := by
  have htouched : s.AgreesBeside (now.touch name) name := hnow.setDatabase _
  have hstruck : now.struck? .bookkeeping = s.struck? .bookkeeping := by
    rw [Server.struck?, Server.struck?, harmed]
  rw [Ends, note, outcome_bind, outcome_attemptIn, hstruck]
  cases s.struck? .bookkeeping with
  | some failure =>
    exact ⟨⟨htouched.others, htouched.writes, htouched.password⟩, by simp⟩
  | none =>
    refine ⟨rfl, (Server.database_setDatabase ..).trans (if_pos rfl), htouched.setDatabase _, ?_⟩
    exact (Server.armed_setDatabase ..).trans ((Server.armed_touch ..).trans harmed)

/-- What it takes for the transaction around the migration to be brought to its end. -/
structure Applicable (s : Server) (name : String) : Prop where
  begin : s.struck? .begin = none
  table : s.struck? .migration = none ∧ (s.database name).rows = none
  bookkeeping : s.struck? .bookkeeping = none

theorem Ready.applicable {s : Server} {name : String} (h : Ready s name)
    (hnone : (s.database name).applied = []) : Applicable s name where
  begin := h.unstruck .begin (by simp [statements, hnone]) (by decide)
  table := ⟨h.unstruck .migration (by simp [statements, hnone]) (by decide), h.sound.fresh hnone⟩
  bookkeeping := h.unstruck .bookkeeping (by simp [statements, hnone]) (by decide)

/-- Among records of the known migration alone, it is only missing if there are none. -/
theorem applied_eq_nil {applied : List MigrationRecord}
    (hknown : ∀ record ∈ applied, record.version = version ∧ record.unaltered = true)
    (hmissing : ∀ record ∈ applied, record.version ≠ version) : applied = [] := by
  apply List.eq_nil_iff_forall_not_mem.mpr
  intro record hrecord
  exact hmissing record hrecord (hknown record hrecord).1

/-- The transaction around the migration leaves a database either as it was or migrated. What it
did before a failure is taken back. -/
theorem apply_ends {s now : Server} (hnow : s.Awaits now) (name : String) :
    (apply name).Ends now
      (fun _ after => Applicable s name ∧ s.Migrated after name ∧ after.armed = s.armed)
      (fun after => s.Agrees after ∧ ¬ Applicable s name) := by
  refine Ends.bind ((execute_ends hnow name .begin).mono (fun _ _ h => h) ?_) ?_
  · rintro after ⟨hagrees, hstruck⟩
    exact ⟨hagrees, fun happlicable => hstruck happlicable.begin⟩
  rintro _ begun ⟨rfl, hbegun, hbegin⟩
  refine Ends.tryCatch (?_ : ServerWork.Ends _ begun _
    (fun after => s.AgreesBeside after name ∧ ¬ Applicable s name)) ?_
  · refine ((createTable_ends hbegun name).adapt.mono (fun _ _ h => h) ?_).bind ?_
    · rintro after ⟨hbeside, htable⟩
      exact ⟨hbeside, fun happlicable => htable happlicable.table⟩
    rintro _ made ⟨htable, hmade, hbeside, harmed⟩
    refine (note_ends hbeside harmed).adapt.mono ?_ ?_
    · rintro _ noted ⟨hbookkeeping, hnoted, hbeside, hnotedArmed⟩
      rw [hmade] at hnoted
      exact ⟨⟨hbegin, htable, hbookkeeping⟩, ⟨hbeside, htable.2, hnoted⟩, hnotedArmed⟩
    · rintro after ⟨hbeside, hbookkeeping⟩
      exact ⟨hbeside, fun happlicable => hbookkeeping happlicable.bookkeeping⟩
  · rintro error failed ⟨hbeside, hnot⟩
    exact ⟨hbeside.restore, hnot⟩

/-- What is left behind a transaction around the migration, or without one where it was applied
before. -/
def Applied (s after : Server) (name : String) : Prop :=
  (s.database name).applied = [] ∧ s.Migrated after name ∨
    (s.database name).applied ≠ [] ∧ s.Agrees after

theorem Applied.of_agrees {s after last : Server} {name : String} (h : Applied s after name)
    (hlast : after.Agrees last) : Applied s last name :=
  h.imp (And.imp_right fun hmigrated => hmigrated.of_agrees hlast)
    (And.imp_right fun hagrees => hagrees.trans hlast)

/-- The lock is given back unless the failure that waits is for that: one for the question before it
would have struck when the lock was taken. What was applied stays so in either case. -/
theorem unlock_ends {s now : Server} {name : String} (hready : Ready s name)
    (happlied : Applied s now name) (harmed : now.armed = s.armed) :
    (onLock name .advisoryUnlock).Ends now
      (fun _ after => Clear s name ∧ after.armed = s.armed ∧ Applied s after name)
      (fun after => Ready s name ∧ s.struck? .advisoryUnlock ≠ none ∧ Applied s after name) := by
  have hstruck (statement : Statement) : now.struck? statement = s.struck? statement := by
    rw [Server.struck?, Server.struck?, harmed]
  refine (onLock_ends (.refl now) name .advisoryUnlock).mono ?_ ?_
  · rintro _ after ⟨hawaits, _, hunlock⟩
    rw [hstruck] at hunlock
    exact ⟨hready.clear hunlock, hawaits.armed.trans harmed, happlied.of_agrees hawaits.toAgrees⟩
  · rintro after ⟨hagrees, hmet⟩
    rw [hstruck, hstruck] at hmet
    have hcurrent : s.struck? .currentDatabase = none :=
      hready.unstruck .currentDatabase (by simp [statements]) (by decide)
    exact ⟨hready, fun hunlock => hmet ⟨hcurrent, hunlock⟩, happlied.of_agrees hagrees⟩

/-- Bringing a database up to date succeeds exactly where the way is clear. Then a database without
records is migrated and any other is left as it was, and a failure leaves every database as it was.
Only a failure that strikes where the lock is given back comes too late for that: it leaves what
success leaves. -/
theorem run_ends (s : Server) (name : String) :
    (run name).Ends s
      (fun _ after => Clear s name ∧ after.armed = s.armed ∧ Applied s after name)
      (fun after => s.Agrees after ∧ ¬ Ready s name ∨
        Ready s name ∧ s.struck? .advisoryUnlock ≠ none ∧ Applied s after name) := by
  refine Ends.bind ((onLock_ends (.refl s) name .advisoryLock).mono (fun _ _ h => h) ?_) ?_
  · rintro after ⟨hagrees, hstruck⟩
    refine .inl ⟨hagrees, fun hready => hstruck ⟨?_, ?_⟩⟩
    · exact hready.unstruck .currentDatabase (by simp [statements]) (by decide)
    · exact hready.unstruck .advisoryLock (by simp [statements]) (by decide)
  rintro _ locked ⟨hlocked, hcurrent, hlock⟩
  refine Ends.bind ((execute_ends hlocked name .ensureRecords).mono (fun _ _ h => h) ?_) ?_
  · rintro after ⟨hagrees, hstruck⟩
    exact .inl ⟨hagrees, fun hready =>
      hstruck (hready.unstruck _ (by simp [statements]) (by decide))⟩
  rintro _ ensured ⟨_, hensured, hensure⟩
  refine Ends.bind ((execute_ends hensured name .dirtyMigration).mono (fun _ _ h => h) ?_) ?_
  · rintro after ⟨hagrees, hstruck⟩
    exact .inl ⟨hagrees, fun hready =>
      hstruck (hready.unstruck _ (by simp [statements]) (by decide))⟩
  rintro _ asked ⟨rfl, hasked, hdirty⟩
  dsimp only
  split
  next error hunfinished =>
    refine Ends.throw_bind (.inl ⟨hasked.toAgrees, fun hready => ?_⟩)
    rw [unfinished?_eq_none_iff.mpr hready.sound.finished] at hunfinished
    cases hunfinished
  next hunfinished =>
  refine Ends.bind ((execute_ends hasked name .appliedMigrations).mono (fun _ _ h => h) ?_) ?_
  · rintro after ⟨hagrees, hstruck⟩
    exact .inl ⟨hagrees, fun hready =>
      hstruck (hready.unstruck _ (by simp [statements]) (by decide))⟩
  rintro _ listed ⟨rfl, hlisted, hlist⟩
  split
  next error hforeign =>
    refine Ends.throw_bind (.inl ⟨hlisted.toAgrees, fun hready => ?_⟩)
    rw [foreign?_eq_none_iff.mpr hready.sound.known] at hforeign
    cases hforeign
  next hforeign =>
  have hfinished := unfinished?_eq_none_iff.mp (Option.eq_none_iff_forall_ne_some.mpr hunfinished)
  have hknown := foreign?_eq_none_iff.mp (Option.eq_none_iff_forall_ne_some.mpr hforeign)
  split
  next hmissing =>
    have hnone := applied_eq_nil hknown (by simpa using hmissing)
    refine ((apply_ends hlisted name).mono (fun _ _ h => h) ?_).bind ?_
    · rintro after ⟨hagrees, hnot⟩
      exact .inl ⟨hagrees, fun hready => hnot (hready.applicable hnone)⟩
    rintro _ applied ⟨happlicable, hmigrated, harmed⟩
    have hready : Ready s name := by
      refine ⟨⟨hfinished, hknown, fun _ => happlicable.table.2⟩, ?_⟩
      simp [statements, hnone, hcurrent, hlock, hensure, hdirty, hlist, happlicable.begin,
        happlicable.table.1, happlicable.bookkeeping]
    exact (unlock_ends hready (.inl ⟨hnone, hmigrated⟩) harmed).mono (fun _ _ h => h)
      fun _ h => .inr h
  next hthere =>
    have hsome : (s.database name).applied ≠ [] := by
      intro hnone
      simp [hnone] at hthere
    have hready : Ready s name := by
      refine ⟨⟨hfinished, hknown, fun hnone => absurd hnone hsome⟩, ?_⟩
      simp [statements, hsome, hcurrent, hlock, hensure, hdirty, hlist]
    exact (unlock_ends hready (.inr ⟨hsome, hlisted.toAgrees⟩) hlisted.armed).mono
      (fun _ _ h => h) fun _ h => .inr h

end Migration

end WaitingList
