import WaitingList.Proofs.Service.Pooled
import WaitingList.Proofs.Store.Atomicity
import WaitingList.Service.Start

namespace WaitingList

namespace Migration

/-- Once a database has a record, bringing it up to date runs only statements that it has run
before. -/
theorem statements_subset {d after : Database} (hafter : after.applied ≠ []) :
    ∀ statement ∈ statements after, statement ∈ statements d := by
  intro statement hstatement
  simp only [statements, List.isEmpty_eq_false_iff.mpr hafter] at hstatement
  simp only [statements, List.mem_append] at hstatement ⊢
  tauto

variable {s after : Server} {name : String}

theorem Applied.password (h : Applied s after name) : after.password = s.password := by
  obtain ⟨_, hmigrated⟩ | ⟨_, hagrees⟩ := h
  · exact hmigrated.password
  · exact hagrees.password

/-- A database to which the migration was applied has a record, and is as sound as it was. -/
theorem Applied.records (h : Applied s after name) (hsound : Sound (s.database name)) :
    (after.database name).applied ≠ [] ∧ Sound (after.database name) := by
  obtain ⟨hnone, hmigrated⟩ | ⟨hsome, hagrees⟩ := h
  · rw [hmigrated.database, hnone]
    exact ⟨by simp, by simp [record], by simp [record], by simp⟩
  · rw [hagrees.database]
    exact ⟨hsome, hsound⟩

end Migration

namespace Service

variable {settings : Settings} {machine : Machine} {store : Store} {error : ManagerError}

section Migration

/-- The manager of settings is lent a connection by the pool that a start opens, to a database that
is there. -/
theorem connects_openPool_iff : (ofSettings settings).manager.Connects (openPool settings store) ↔
    0 < settings.pool.maxConnections ∧
      store.refusal? .pooled settings.target.options = none ∧
      store.server.has settings.target.database = true := by
  constructor
  · rintro ⟨hlends, hthere⟩
    obtain ⟨hroom, hconnects⟩ := PooledStore.lends_ofSize_iff.mp hlends
    exact ⟨hroom, hconnects, hthere⟩
  · rintro ⟨hroom, hconnects, hthere⟩
    exact ⟨PooledStore.lends_ofSize_iff.mpr ⟨hroom, hconnects⟩, hthere⟩

/-- A first migration that succeeds leaves its pool at rest. -/
theorem resting_of_migrateFirst (hok : (migrateFirst settings store).1 = .ok ()) :
    0 < settings.pool.maxConnections ∧
      (migrateFirst settings store).2.Resting (ofSettings settings).manager.target.options := by
  obtain ⟨hlends, _⟩ := Manager.migratePooled_ok hok
  have hroom := (PooledStore.lends_ofSize_iff.mp hlends).1
  obtain ⟨_, _, hrests⟩ := Manager.migratePooled_of_resting
    (PooledStore.Resting.ofSize hroom store (ofSettings settings).manager.target.options)
  exact ⟨hroom, hrests⟩

/-- A migration that succeeded succeeds again, and leaves what there is then as it is. -/
theorem migrateFirst_again (hok : (migrateFirst settings store).1 = .ok ()) :
    let left := (migrateFirst settings store).2.store
    (migrateFirst settings left).1 = .ok () ∧
      left.server.Awaits (migrateFirst settings left).2.store.server := by
  intro left
  obtain ⟨hlends, hreach, hclear, harmed, happlied⟩ := Manager.migratePooled_ok hok
  obtain ⟨hroom, hconnects⟩ := PooledStore.lends_ofSize_iff.mp hlends
  have hpassword : left.server.password = store.server.password := happlied.password
  have hrecords := happlied.records hclear.sound
  have hagain : Migration.Clear left.server settings.target.database := by
    refine ⟨hrecords.2, fun statement hstatement => ?_⟩
    have hstruck : left.server.struck? statement = store.server.struck? statement := by
      rw [Server.struck?, Server.struck?, show left.server.armed = store.server.armed from harmed]
    rw [hstruck]
    exact hclear.unstruck statement (Migration.statements_subset hrecords.1 statement hstatement)
  have hrefusal := Store.refusal?_congr store left hreach hpassword .pooled settings.target.options
  have hlendsAgain : (openPool settings left).Lends settings.target.options :=
    PooledStore.lends_ofSize_iff.mpr ⟨hroom, hrefusal.trans hconnects⟩
  have hsucceeds : (migrateFirst settings left).1 = .ok () :=
    (Manager.migratePooled_eq_ok_iff (m := (ofSettings settings).manager) hlendsAgain).mpr hagain
  refine ⟨hsucceeds, ?_⟩
  obtain ⟨_, _, _, harmedAgain, ⟨hnone, _⟩ | ⟨_, hagrees⟩⟩ := Manager.migratePooled_ok hsucceeds
  · exact absurd hnone hrecords.1
  · exact ⟨hagrees, harmedAgain⟩

end Migration

section Start

theorem store_listen (settings : Settings) (machine : Machine) (store : Store)
    (events : List Event) : (listen settings machine store events).store = store := by
  unfold listen
  dsimp only
  split <;> rfl

theorem result_listen (settings : Settings) (machine : Machine) (store : Store)
    (events : List Event) : (listen settings machine store events).result =
      if machine.canListen settings.network.host settings.network.port then
        .ok (ofSettings settings) else .error .listen := by
  unfold listen
  dsimp only
  split <;> rfl

theorem startPooled_of_no_migration (hmigrates : settings.pool.migrateOnStart = false) :
    startPooled settings machine store =
      ⟨listen settings machine store [.poolOpened], (openPool settings store).pool⟩ := by
  simp [startPooled, hmigrates]

theorem startPooled_of_error (hmigrates : settings.pool.migrateOnStart = true)
    (herror : (migrateFirst settings store).1 = .error error) :
    startPooled settings machine store =
      ⟨⟨.error (.store error), (migrateFirst settings store).2.store,
        [.poolOpened, .migrationBegun]⟩, (migrateFirst settings store).2.pool⟩ := by
  simp [startPooled, hmigrates, herror]

theorem startPooled_of_ok (hmigrates : settings.pool.migrateOnStart = true)
    (hok : (migrateFirst settings store).1 = .ok ()) :
    startPooled settings machine store =
      ⟨listen settings machine (migrateFirst settings store).2.store
        [.poolOpened, .migrationBegun], (migrateFirst settings store).2.pool⟩ := by
  simp [startPooled, hmigrates, hok]

/-- Settings under which a start reaches the point where it listens. -/
def ReachesListening (settings : Settings) (store : Store) : Prop :=
  settings.pool.migrateOnStart = false ∨ (migrateFirst settings store).1 = .ok ()

/-- A start listens behind a pool that is as it was opened, or that has made its first connections
and has them back. -/
theorem startPooled_of_reaches (h : ReachesListening settings store) :
    ∃ p events, (∀ elsewhere : Machine, startPooled settings elsewhere store =
        ⟨listen settings elsewhere p.store events, p.pool⟩) ∧
      (p = openPool settings store ∨ 0 < settings.pool.maxConnections ∧
        p.Resting (ofSettings settings).manager.target.options) := by
  cases hmigrates : settings.pool.migrateOnStart with
  | false =>
    exact ⟨openPool settings store, _, fun _ => startPooled_of_no_migration hmigrates, .inl rfl⟩
  | true =>
    have hok := h.resolve_left (by simp [hmigrates])
    obtain ⟨hroom, hrests⟩ := resting_of_migrateFirst hok
    exact ⟨(migrateFirst settings store).2, _, fun _ => startPooled_of_ok hmigrates hok,
      .inr ⟨hroom, hrests⟩⟩

theorem result_of_reaches (h : ReachesListening settings store) (machine : Machine) :
    (startPooled settings machine store).result =
      if machine.canListen settings.network.host settings.network.port then
        .ok (ofSettings settings) else .error .listen := by
  obtain ⟨p, events, hstart, _⟩ := startPooled_of_reaches h
  rw [hstart]
  exact result_listen settings machine p.store events

/-- Short of where it listens, a start is alike on every machine. -/
theorem startPooled_of_not_reaches (h : ¬ ReachesListening settings store) :
    settings.pool.migrateOnStart = true ∧ ∃ error, (migrateFirst settings store).1 = .error error ∧
      ∀ elsewhere : Machine, startPooled settings elsewhere store =
        ⟨⟨.error (.store error), (migrateFirst settings store).2.store,
          [.poolOpened, .migrationBegun]⟩, (migrateFirst settings store).2.pool⟩ := by
  obtain ⟨hmigrates, hfails⟩ := not_or.mp h
  have hmigrates : settings.pool.migrateOnStart = true := by simpa using hmigrates
  cases hresult : (migrateFirst settings store).1 with
  | ok done => exact absurd hresult hfails
  | error error =>
    exact ⟨hmigrates, error, rfl, fun _ => startPooled_of_error hmigrates hresult⟩

/-- A service that has started is the one of its settings, and the pool that the start left serves
it in every run as a new one would. -/
theorem runPooled_of_start {service : Service}
    (hok : (startPooled settings machine store).result = .ok service) :
    service = ofSettings settings ∧ ∀ steps,
      (service.runPooled (startPooled settings machine store).pooled steps).map
          (fun (answer, now) => (answer, now.store)) =
        (service.runPooled (openPool settings (startPooled settings machine store).store) steps).map
          fun (answer, now) => (answer, now.store) := by
  by_cases hreaches : ReachesListening settings store
  · have hservice := result_of_reaches hreaches machine
    rw [hok] at hservice
    split at hservice
    · obtain rfl := Except.ok.inj hservice
      refine ⟨rfl, fun steps => ?_⟩
      obtain ⟨p, events, hstart, hp⟩ := startPooled_of_reaches hreaches
      have hpooled : (startPooled settings machine store).pooled = p := by
        rw [hstart, PooledStart.pooled, store_listen]
      have hstore : (startPooled settings machine store).store = p.store := by
        rw [hstart, store_listen]
      rw [hpooled, hstore]
      obtain rfl | ⟨hroom, hrests⟩ := hp
      · rfl
      · rw [runPooled_of_resting hrests]
        exact (runPooled_of_resting (.ofSize hroom p.store _) steps).symm
    · cases hservice
  · obtain ⟨_, error, _, hstart⟩ := startPooled_of_not_reaches hreaches
    rw [hstart] at hok
    cases hok

theorem exists_service_iff :
    (∃ service, (startPooled settings machine store).result = .ok service) ↔
    ReachesListening settings store ∧
      machine.canListen settings.network.host settings.network.port = true := by
  constructor
  · rintro ⟨service, hservice⟩
    have hreaches : ReachesListening settings store := by
      by_contra hnot
      obtain ⟨_, error, _, hstart⟩ := startPooled_of_not_reaches hnot
      rw [hstart] at hservice
      cases hservice
    rw [result_of_reaches hreaches] at hservice
    refine ⟨hreaches, ?_⟩
    by_contra hnot
    rw [if_neg hnot] at hservice
    cases hservice
  · rintro ⟨hreaches, hlistens⟩
    exact ⟨_, (result_of_reaches hreaches machine).trans (if_pos hlistens)⟩

/-- Without a migration the store is left alone and makes no difference. -/
theorem startPooled_alone (hmigrates : settings.pool.migrateOnStart = false) (other : Store) :
    (startPooled settings machine store).pooled = openPool settings store ∧
      (startPooled settings machine other).result = (startPooled settings machine store).result ∧
      (startPooled settings machine other).events =
        (startPooled settings machine store).events := by
  rw [startPooled_of_no_migration hmigrates, startPooled_of_no_migration hmigrates]
  unfold listen PooledStart.pooled
  dsimp only
  split <;> exact ⟨rfl, rfl, rfl⟩

/-- After a start whose migration succeeded, the next start finds the migration done. -/
theorem startPooled_again (machine : Machine) (hmigrates : settings.pool.migrateOnStart = true)
    (hok : (migrateFirst settings store).1 = .ok ()) :
    let start := startPooled settings machine store
    start.store.reach = store.reach ∧
      (store.server.Migrated start.store.server settings.target.database ∨
        store.server.Awaits start.store.server) ∧
      ∀ elsewhere : Machine, ReachesListening settings start.store ∧
        start.store.server.Awaits (startPooled settings elsewhere start.store).store.server := by
  intro start
  have hleft : start.store = (migrateFirst settings store).2.store := by
    rw [show start = _ from startPooled_of_ok hmigrates hok, store_listen]
  obtain ⟨_, hreach, _, harmed, happlied⟩ := Manager.migratePooled_ok hok
  obtain ⟨hagain, hawaits⟩ := migrateFirst_again hok
  rw [hleft]
  refine ⟨hreach, happlied.imp And.right fun hkept => ⟨hkept.2, harmed⟩,
    fun elsewhere => ⟨.inr hagain, ?_⟩⟩
  rw [startPooled_of_ok hmigrates hagain, store_listen]
  exact hawaits

/-- What a start does and where it ends. -/
structure StartEffects (settings : Settings) (machine : Machine) (store : Store)
    (start : PooledStart) : Prop where
  /-- It gives the service exactly if the migration succeeds, or is not asked for, and the address
  can be listened on. -/
  started : (∃ service, start.result = .ok service) ↔
    (settings.pool.migrateOnStart = false ∨ (migrateFirst settings store).1 = .ok ()) ∧
      machine.canListen settings.network.host settings.network.port = true
  /-- Without a migration nothing is done to the store, and it makes no difference. -/
  unmigrated : settings.pool.migrateOnStart = false →
    start.pooled = ⟨.ofSize settings.pool.maxConnections, store⟩ ∧
    ∀ other, (startPooled settings machine other).result = start.result ∧
      (startPooled settings machine other).events = start.events
  /-- A migration that fails ends the start before the address is tried. It leaves what the store
  held, unless it comes to where the lock is given back and a failure waits for that. -/
  failed : settings.pool.migrateOnStart = true →
    ∀ error, (migrateFirst settings store).1 = .error error →
      start.result = .error (.store error) ∧ (∃ cause, error = .migration cause) ∧
      (∀ elsewhere, startPooled settings elsewhere store = start) ∧
      (¬ ((openPool settings store).Lends settings.target.options ∧
        Migration.Sound (store.server.database settings.target.database) ∧
        store.server.struck? .advisoryUnlock ≠ none) → store.Agrees start.store)
  /-- A migration that fails where the lock is given back ends the start all the same, with what was
  applied in place. -/
  failedLate : settings.pool.migrateOnStart = true →
    (ofSettings settings).manager.Connects (openPool settings store) →
    Migration.Sound (store.server.database settings.target.database) →
    store.server.struck? .advisoryUnlock ≠ none →
      (∃ error, start.result = .error (.store error)) ∧
      Migration.Applied store.server start.store.server settings.target.database
  /-- An address that cannot be listened on is told of as such. -/
  unheard : settings.pool.migrateOnStart = false ∨ (migrateFirst settings store).1 = .ok () →
    machine.canListen settings.network.host settings.network.port = false →
      start.result = .error .listen
  /-- A migration that succeeds stays done, whatever becomes of the address, and the next start
  finds it done. -/
  migrated : settings.pool.migrateOnStart = true → (migrateFirst settings store).1 = .ok () →
    start.store.reach = store.reach ∧
    (store.server.Migrated start.store.server settings.target.database ∨
      store.server.Awaits start.store.server) ∧
    ∀ elsewhere : Machine,
      let next := startPooled settings elsewhere start.store
      (elsewhere.canListen settings.network.host settings.network.port = true →
        next.result = .ok (ofSettings settings)) ∧
      start.store.server.Awaits next.store.server
  /-- The service is the one of the settings, with its policy of submissions. It answers whatever
  comes as one behind a new pool on the store that the start left, and if the pool has room, as one
  on that store alone. -/
  serves : ∀ service, start.result = .ok service →
    service = ⟨.ofTarget settings.target, settings.emailPolicy⟩ ∧
    (∀ steps, (service.runPooled start.pooled steps).map
        (fun (answer, now) => (answer, now.store)) =
      (service.runPooled ⟨.ofSize settings.pool.maxConnections, start.store⟩ steps).map
        fun (answer, now) => (answer, now.store)) ∧
    (0 < settings.pool.maxConnections → ∀ steps, (service.runPooled start.pooled steps).map
        (fun (answer, now) => (answer, now.store)) = service.run start.store steps)

theorem startPooled_effects (settings : Settings) (machine : Machine) (store : Store) :
    StartEffects settings machine store (startPooled settings machine store) where
  started := exists_service_iff
  unmigrated hmigrates :=
    ⟨(startPooled_alone hmigrates store).1, fun other => (startPooled_alone hmigrates other).2⟩
  failed hmigrates error herror := by
    have hstart (elsewhere : Machine) : startPooled settings elsewhere store = _ :=
      startPooled_of_error hmigrates herror
    rw [hstart machine]
    refine ⟨rfl, Manager.migratePooled_error_kind herror, hstart, fun hearly => ?_⟩
    obtain ⟨hagrees, _⟩ | ⟨hlends, _, hready, hstruck, _⟩ := Manager.migratePooled_error herror
    · exact hagrees
    · exact absurd ⟨hlends, hready.sound, hstruck⟩ hearly
  failedLate hmigrates hconnects hsound hstruck := by
    obtain ⟨⟨error, herror⟩, happlied⟩ :=
      Manager.migratePooled_of_struck_unlock hconnects.lends hsound hstruck
    rw [startPooled_of_error hmigrates herror]
    exact ⟨⟨error, rfl⟩, happlied⟩
  unheard hreaches hlistens :=
    (result_of_reaches hreaches machine).trans (if_neg (by simp [hlistens]))
  migrated hmigrates hok := by
    obtain ⟨hreach, heffect, hnext⟩ := startPooled_again machine hmigrates hok
    refine ⟨hreach, heffect, fun elsewhere => ⟨fun hlistens => ?_, (hnext elsewhere).2⟩⟩
    exact (result_of_reaches (hnext elsewhere).1 elsewhere).trans (if_pos hlistens)
  serves service hok := by
    obtain ⟨hservice, hruns⟩ := runPooled_of_start hok
    refine ⟨hservice, hruns, fun hroom steps => ?_⟩
    rw [hruns steps]
    exact runPooled_of_resting (.ofSize hroom _ _) steps

/-- Settings that ask for a migration over a single connection. -/
def migratingSettings : Settings where
  network := ⟨⟨127, 0, 0, 1⟩, 80⟩
  target := ⟨"postgres", "", 5432, "localhost", "waitlist", .disable⟩
  pool := ⟨1, 9, true⟩
  emailPolicy := .strict

/-- A start on a server whose database is empty, while its address is taken. -/
def hinderedStart : PooledStart :=
  startPooled migratingSettings ⟨fun _ _ => false⟩
    ⟨.server, .ofDatabase "waitlist"⟩

/-- A start whose address is taken leaves the table that it made, and once the address is free the
next start gives the service. -/
theorem startPooled_effects_address_taken :
    hinderedStart.result = .error .listen ∧
      (hinderedStart.store.server.database "waitlist").rows = some [] ∧
      (startPooled migratingSettings ⟨fun _ _ => true⟩ hinderedStart.store).result =
        .ok (ofSettings migratingSettings) := by
  have hrows : (hinderedStart.store.server.database "waitlist").rows = some [] := by
    decide +kernel
  have hok : (migrateFirst migratingSettings
      ⟨.server, .ofDatabase "waitlist"⟩).1 = .ok () := by decide +kernel
  have heffects := startPooled_effects migratingSettings ⟨fun _ _ => false⟩
    ⟨.server, .ofDatabase "waitlist"⟩
  rw [← hinderedStart] at heffects
  obtain ⟨_, _, hnext⟩ := heffects.migrated rfl hok
  exact ⟨heffects.unheard (.inr hok) rfl, hrows, (hnext ⟨fun _ _ => true⟩).1 rfl⟩

/-- A start on an empty database whose migration cannot give its lock back. It ends with the
migration's error, and the table is there. -/
theorem startPooled_fails_migrated :
    let store : Store := ⟨.server, ⟨[("waitlist", ⟨none, []⟩)], 0,
      some ⟨"unlock", "57014", "canceling statement"⟩, none⟩⟩
    let start := startPooled migratingSettings ⟨fun _ _ => true⟩ store
    start.result =
        .error (.store (.migration (.execute (.database "canceling statement")))) ∧
      start.store.server.databases = [("waitlist", ⟨some [], [Migration.record]⟩)] := by
  intro store start
  exact ⟨by decide +kernel, by decide +kernel⟩

end Start

end Service

end WaitingList
