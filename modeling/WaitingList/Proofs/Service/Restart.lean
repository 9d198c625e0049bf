import WaitingList.Proofs.Service.Discretion
import WaitingList.Proofs.Service.Ledger
import WaitingList.Proofs.Service.Startup

namespace WaitingList

namespace Database

/-- A database in which nothing has been done, or one in which the migration was done as a whole
and nothing else. -/
def Consistent (d : Database) : Prop :=
  d.rows = none ∧ d.applied = [] ∨
    d.rows.isSome = true ∧ d.applied = [⟨20250611120000, true, true⟩]

/-- What happens to a database at most, from one point to the next. -/
inductive Change (d after : Database) : Prop where
  | kept (hsame : after = d)
  | written {rows rows' : List Row} (hrows : d.rows = some rows) (hafter : after.rows = some rows')
      (happlied : after.applied = d.applied)
  | migrated (hrows : d.rows = none) (hafter : after = ⟨some [], d.applied ++ [Migration.record]⟩)

namespace Change

variable {d after : Database}

theorem consistent (h : d.Change after) (hconsistent : d.Consistent) : after.Consistent := by
  cases h with
  | kept hsame => exact hsame ▸ hconsistent
  | written hrows hafter happlied =>
    obtain ⟨hnone, _⟩ | ⟨_, hrecord⟩ := hconsistent
    · rw [hrows] at hnone
      cases hnone
    · exact .inr ⟨by rw [hafter, Option.isSome_some], happlied.trans hrecord⟩
  | migrated hrows hafter =>
    obtain ⟨_, hnone⟩ | ⟨hsome, _⟩ := hconsistent
    · rw [hafter, hnone]
      exact .inr ⟨rfl, rfl⟩
    · rw [hrows] at hsome
      cases hsome

theorem table (h : d.Change after) (htable : d.rows.isSome = true) : after.rows.isSome = true := by
  cases h with
  | kept hsame => exact hsame ▸ htable
  | written _ hafter _ => rw [hafter, Option.isSome_some]
  | migrated _ hafter => rw [hafter, Option.isSome_some]

theorem of_migrated {s after : Server} {name : String} (hmigrated : s.Migrated after name)
    (other : String) : (s.database other).Change (after.database other) := by
  by_cases hother : other = name
  · subst hother
    exact .migrated hmigrated.rows hmigrated.database
  · exact .kept (hmigrated.others other hother)

theorem of_wrote {s after : Server} {name email : String} (hwrote : s.Wrote after name email)
    (other : String) : (s.database other).Change (after.database other) := by
  by_cases hother : other = name
  · subst hother
    obtain ⟨rows, hrows, hafter⟩ := hwrote.rows
    exact .written hrows hafter hwrote.applied
  · exact .kept (hwrote.others other hother)

end Change

end Database

namespace Manager

variable {m : Manager} {p : PooledStore} {store : Store}

theorem migratePooled_change (m : Manager) (p : PooledStore) (name : String) :
    (p.store.server.database name).Change
      ((m.migratePooled p).2.store.server.database name) := by
  obtain hagrees | ⟨_, hmigrated⟩ := m.migratePooled_effect p
  · exact .kept (hagrees.server.database name)
  · exact .of_migrated hmigrated name

theorem migrate_change (m : Manager) (store : Store) (name : String) :
    (store.server.database name).Change ((m.migrate store).store.server.database name) := by
  rw [(m.migrate_eq store).2]
  exact m.migratePooled_change ⟨.ofSize 1, store⟩ name

theorem upsertPooled_change (m : Manager) (email : String) (p : PooledStore) (name : String) :
    (p.store.server.database name).Change
      ((m.upsertPooled email p).2.store.server.database name) := by
  have hwork := ServerWork.upsert_effect m.target.database email p.store.server
  cases hresult : (m.upsertPooled email p).1 with
  | ok done =>
    obtain ⟨_, _, hwrote⟩ := PooledStore.work_ok hwork hresult
    exact .of_wrote hwrote name
  | error error =>
    obtain ⟨_, hsame⟩ | ⟨_, _, hagrees⟩ := PooledStore.work_error hwork hresult
    · rw [show (m.upsertPooled email p).2 = p from hsame]
      exact .kept rfl
    · exact .kept (hagrees.database name)

end Manager

namespace Service

variable {service : Service} {p : PooledStore} {moment : Moment} {request : Request}
  {address : EmailAddress}

/-- What a step does to the server, as it shows in one database. -/
theorem Effect.change {s after : Server} {body? : Option (List UInt8)}
    (heffect : service.Effect s after body?) (name : String) :
    (s.database name).Change (after.database name) := by
  cases heffect with
  | wrote _ hwrote => exact .of_wrote hwrote name
  | kept hagrees => exact .kept (hagrees.database name)
  | migrated hmigrated => exact .of_migrated hmigrated name

theorem subscribePooled_change (service : Service) (body : Body) (p : PooledStore) (name : String) :
    (p.store.server.database name).Change
      ((service.subscribePooled body p).2.store.server.database name) := by
  cases hsubmission : body.submission service.policy with
  | error error =>
    simp only [subscribePooled, hsubmission]
    exact .kept rfl
  | ok address =>
    have hchange := service.manager.upsertPooled_change address.text p name
    rcases hupsert : service.manager.upsertPooled address.text p with ⟨result, after⟩
    rw [hupsert] at hchange
    cases result <;> simpa only [subscribePooled, hsubmission, hupsert] using hchange

/-- A step over whatever pool changes a database by a migration or a write at most. -/
theorem stepPooled_change (service : Service) (p : PooledStore) (s : Step) (name : String) :
    (p.store.server.database name).Change
      ((service.stepPooled p s).2.store.server.database name) := by
  cases s with
  | request moment request =>
    change Database.Change _ ((service.answerPooled moment request p).2.store.server.database name)
    by_cases hsubmission : request.IsSubmission
    · rw [answerPooled_of_isSubmission service moment p hsubmission]
      exact service.subscribePooled_change request.body p name
    · rw [answerPooled_of_not_isSubmission service moment p hsubmission]
      exact .kept rfl
  | migrate => exact service.manager.migratePooled_change p name
  | fail failure => exact .kept rfl

/-- Where a connection is lent, the table is there and no failure waits, a valid submission is
accepted. -/
theorem answerPooled_of_lends {rows : List Row} (hlends : p.Lends service.manager.target.options)
    (hunstruck : p.store.server.struck? .upsert = none)
    (htable : (p.store.server.database service.manager.target.database).rows = some rows)
    (hsubmission : request.IsSubmission)
    (haddress : request.body.submission service.policy = .ok address) :
    (service.answerPooled moment request p).1.response.status = 200 := by
  obtain ⟨pool, hlend⟩ := hlends
  have hupsert : (service.manager.upsertPooled address.text p).1 = .ok () := by
    rw [Manager.upsertPooled, PooledStore.work_of_lent hlend, ServerWork.outcome_upsert, hunstruck,
      htable]
  rcases hpooled : service.manager.upsertPooled address.text p with ⟨result, after⟩
  rw [hpooled] at hupsert
  subst hupsert
  have hsubscribe : service.subscribePooled request.body p = (⟨some address, none⟩, after) := by
    simp only [subscribePooled, haddress, hpooled]
  rw [answerPooled_of_isSubmission service moment p hsubmission, hsubscribe]
  rfl

/-- Starting a service changes the store by a migration at most. -/
theorem store_startPooled (settings : Settings) (machine : Machine) (store : Store) :
    (startPooled settings machine store).store =
      if settings.pool.migrateOnStart then (migrateFirst settings store).2.store else store := by
  unfold startPooled
  split
  · dsimp only
    split
    · rfl
    · exact store_listen _ _ _ _
  · exact store_listen _ _ _ _

end Service

/-- What happens to a store: a service is started on it, or a service on it, started or not, does
something over whatever connections it has. -/
inductive Turn where
  | start (settings : Settings) (machine : Machine)
  | step (service : Service) (pool : Pool) (s : Step)

namespace Turn

def after (store : Store) : Turn → Store
  | .start settings machine => (Service.startPooled settings machine store).store
  | .step service pool s => (service.stepPooled ⟨pool, store⟩ s).2.store

/-- The store after turns. -/
def run (store : Store) (turns : List Turn) : Store := turns.foldl after store

/-- A turn changes a database by a migration or a write at most. -/
theorem change_after (turn : Turn) (store : Store) (name : String) :
    (store.server.database name).Change ((turn.after store).server.database name) := by
  cases turn with
  | start settings machine =>
    rw [after, Service.store_startPooled]
    split
    · exact Manager.migratePooled_change _ (Service.openPool settings store) name
    · exact .kept rfl
  | step service pool s => exact service.stepPooled_change ⟨pool, store⟩ s name

theorem consistent_run {store : Store} {name : String}
    (hconsistent : (store.server.database name).Consistent) (turns : List Turn) :
    ((run store turns).server.database name).Consistent := by
  -- A turn changes a database by a migration or a write at most, and both keep it consistent.
  induction turns generalizing store with
  | nil => exact hconsistent
  | cons turn rest ih => exact ih ((turn.change_after store name).consistent hconsistent)

theorem table_run {store : Store} {name : String}
    (htable : (store.server.database name).rows.isSome = true) (turns : List Turn) :
    ((run store turns).server.database name).rows.isSome = true := by
  induction turns generalizing store with
  | nil => exact htable
  | cons turn rest ih => exact ih ((turn.change_after store name).table htable)

end Turn

/-- A store from which nothing was lost and which is in use again: a database has a table with the
rows that it had before, and from then on, whatever happens, a valid submission to it is accepted
unless no connection is to be had or a failure waits for it. -/
structure Store.Recovered (before after : Store) (name : String) : Prop where
  rows : (after.server.database name).rows =
    some ((before.server.database name).rows.getD [])
  serves : ∀ (later : List Turn) (service : Service) (pool : Pool) (moment : Moment)
    (request : Request) (address : EmailAddress), service.manager.target.database = name →
    let p : PooledStore := ⟨pool, Turn.run after later⟩
    p.Lends service.manager.target.options → p.store.server.struck? .upsert = none →
    request.IsSubmission → request.body.submission service.policy = .ok address →
      (service.answerPooled moment request p).1.response.status = 200

namespace Manager

variable {m : Manager} {p : PooledStore}

/-- Nothing about a consistent database speaks against its migration. -/
theorem sound_of_consistent {d : Database} (hconsistent : d.Consistent) : Migration.Sound d := by
  obtain ⟨hnone, happlied⟩ | ⟨_, happlied⟩ := hconsistent
  · exact ⟨by simp [happlied], by simp [happlied], fun _ => hnone⟩
  · exact ⟨by simp [happlied], by simp [happlied, Migration.version], by simp [happlied]⟩

/-- A migration of a consistent database that succeeds brings it into use with the rows that it
had. -/
theorem recovered_of_migratePooled_ok
    (hconsistent : (p.store.server.database m.target.database).Consistent)
    (hok : (m.migratePooled p).1 = .ok ()) :
    p.store.Recovered (m.migratePooled p).2.store m.target.database := by
  have hrows : ((m.migratePooled p).2.store.server.database m.target.database).rows =
      some ((p.store.server.database m.target.database).rows.getD []) := by
    obtain ⟨_, _, _, _, ⟨_, hmigrated⟩ | ⟨hsome, hagrees⟩⟩ := migratePooled_ok hok
    · rw [hmigrated.database, hmigrated.rows]
      rfl
    · obtain ⟨_, hnone⟩ | ⟨htable, _⟩ := hconsistent
      · exact absurd hnone hsome
      · obtain ⟨rows, hrows⟩ := Option.isSome_iff_exists.mp htable
        rw [hagrees.database, hrows]
        rfl
  refine ⟨hrows, ?_⟩
  intro later service pool moment request address hname now hlends hunstruck hsubmission haddress
  have htable := Turn.table_run (Option.isSome_iff_exists.mpr ⟨_, hrows⟩) later
  obtain ⟨rows, htable⟩ := Option.isSome_iff_exists.mp htable
  rw [← hname] at htable
  exact Service.answerPooled_of_lends hlends hunstruck htable hsubmission haddress

theorem migratePooled_of_consistent (hlends : p.Lends m.target.options)
    (hconsistent : (p.store.server.database m.target.database).Consistent)
    (hunstruck : ∀ statement ∈ Migration.statements (p.store.server.database m.target.database),
      p.store.server.struck? statement = none) :
    (m.migratePooled p).1 = .ok () ∧
      p.store.Recovered (m.migratePooled p).2.store m.target.database := by
  have hok := (migratePooled_eq_ok_iff hlends).mpr ⟨sound_of_consistent hconsistent, hunstruck⟩
  exact ⟨hok, recovered_of_migratePooled_ok hconsistent hok⟩

end Manager

namespace Turn

open Service (migratingSettings)

/-- A database that is consistent stays so through all turns, whatever fails and whatever
connections there are. Wherever the turns have led, a migration that gets a connection to the
database and meets no failure at any of its statements succeeds and brings the database into use
with the rows that it had. A start that migrates does the same if its pool has room, and gives the
service if its address can be listened on. -/
theorem consistent_and_recoverable (name : String) (store : Store)
    (hconsistent : (store.server.database name).Consistent) (turns : List Turn) :
    let now := run store turns
    (now.server.database name).Consistent ∧
      (∀ (m : Manager) (pool : Pool), m.target.database = name → m.Connects ⟨pool, now⟩ →
        (∀ statement ∈ Migration.statements (now.server.database name),
          now.server.struck? statement = none) →
        (m.migratePooled ⟨pool, now⟩).1 = .ok () ∧
          now.Recovered (m.migratePooled ⟨pool, now⟩).2.store name) ∧
      ∀ (settings : Settings) (machine : Machine), settings.target.database = name →
        settings.pool.migrateOnStart = true → 0 < settings.pool.maxConnections →
        now.refusal? .pooled settings.target.options = none → now.server.has name = true →
        (∀ statement ∈ Migration.statements (now.server.database name),
          now.server.struck? statement = none) →
        now.Recovered (Service.startPooled settings machine now).store name ∧
          (machine.canListen settings.network.host settings.network.port = true →
            (Service.startPooled settings machine now).result =
              .ok (Service.ofSettings settings)) := by
  intro now
  have hnow : (now.server.database name).Consistent := consistent_run hconsistent turns
  refine ⟨hnow, ?_, ?_⟩
  · rintro m pool rfl hconnects hunstruck
    exact Manager.migratePooled_of_consistent hconnects.lends hnow hunstruck
  · rintro settings machine rfl hmigrates hroom hconnects hthere hunstruck
    have hopened := Service.connects_openPool_iff.mpr ⟨hroom, hconnects, hthere⟩
    obtain ⟨hok, hrecovered⟩ := Manager.migratePooled_of_consistent hopened.lends hnow hunstruck
    rw [Service.store_startPooled, if_pos hmigrates]
    exact ⟨hrecovered, fun hlistens =>
      (Service.result_of_reaches (.inr hok) machine).trans (if_pos hlistens)⟩

/-- A store on which a start failed over its migration, behind the statement that makes the
table. -/
def interrupted : Store :=
  run ⟨.server, .ofDatabase "waitlist"⟩
    [.step (.ofSettings migratingSettings) (.ofSize 1)
        (.fail ⟨"bookkeeping", "40001", "could not serialize access"⟩),
      .start migratingSettings ⟨fun _ _ => true⟩]

/-- The start that comes next finds nothing in its way. -/
theorem consistent_and_recoverable_next_start :
    let next := Service.startPooled migratingSettings ⟨fun _ _ => true⟩ interrupted
    interrupted.server.databases = [("waitlist", ⟨none, []⟩)] ∧
      next.result = .ok (.ofSettings migratingSettings) ∧
      interrupted.Recovered next.store "waitlist" := by
  intro next
  have hdatabases : interrupted.server.databases = [("waitlist", ⟨none, []⟩)] := by decide +kernel
  have hdisarmed : interrupted.server.armed = none := by decide +kernel
  have hrecoverable := consistent_and_recoverable "waitlist"
    ⟨.server, .ofDatabase "waitlist"⟩
    (.inl ⟨by decide +kernel, by decide +kernel⟩)
    [.step (.ofSettings migratingSettings) (.ofSize 1)
        (.fail ⟨"bookkeeping", "40001", "could not serialize access"⟩),
      .start migratingSettings ⟨fun _ _ => true⟩]
  rw [← interrupted] at hrecoverable
  obtain ⟨_, _, hstart⟩ := hrecoverable
  obtain ⟨hrecovered, hresult⟩ := hstart migratingSettings ⟨fun _ _ => true⟩ rfl rfl (by decide)
    (by decide +kernel) (by decide +kernel)
    fun _ _ => by rw [Server.struck?, hdisarmed, Option.filter_none]
  exact ⟨hdatabases, hresult rfl, hrecovered⟩

/-- No failure has to wait for a consistent database to stay out of use: without the password there
is no connection, over a pool of none there is none either, and on an address that is taken there is
no service. -/
theorem not_recoverable_unconnected :
    let target : ConnectionTarget := ⟨"postgres", "", 5432, "localhost", "waitlist", .disable⟩
    let settings (connections : Nat) : Settings :=
      ⟨⟨⟨127, 0, 0, 1⟩, 8080⟩, target, ⟨connections, 3000, true⟩, .minimal⟩
    let blank : Store := ⟨.server, .ofDatabase "waitlist"⟩
    let locked : Store := ⟨.server, { blank.server with password := some "secret" }⟩
    let taken : Machine := ⟨fun _ _ => false⟩
    let free : Machine := ⟨fun _ _ => true⟩
    ((locked.server.database "waitlist").Consistent ∧ locked.server.armed = none ∧
      ((Manager.ofTarget target).migratePooled ⟨.ofSize 5, locked⟩).1 =
        .error (.migration (.execute
          (.database "password authentication failed for user \"postgres\"")))) ∧
    (blank.server.database "waitlist").Consistent ∧ blank.server.armed = none ∧
      (Service.startPooled (settings 0) free blank).result =
        .error (.store (.migration (.execute .poolTimedOut))) ∧
      (Service.startPooled (settings 5) taken blank).result = .error .listen := by
  intro target settings blank locked taken free
  have hroomless : (Service.startPooled (settings 0) free blank).result =
      .error (.store (.migration (.execute .poolTimedOut))) := by
    decide +kernel
  have htaken : (Service.startPooled (settings 5) taken blank).result = .error .listen := by
    decide +kernel
  exact ⟨⟨.inl ⟨rfl, rfl⟩, rfl, rfl⟩, .inl ⟨rfl, rfl⟩, rfl, hroomless, htaken⟩

end Turn

end WaitingList
