import WaitingList.Proofs.Store.Manager

namespace WaitingList

namespace Migration

/-- What is left where a migration was applied, or found applied, told in full. -/
theorem Applied.told {s after : Server} {name : String} (h : Applied s after name) :
    ((s.database name).applied = [] →
        after.database name = ⟨some [], [⟨20250611120000, true, true⟩]⟩ ∧
          s.AgreesBeside after name) ∧
      ((s.database name).applied ≠ [] → s.Agrees after) := by
  obtain ⟨hnone, hmigrated⟩ | ⟨hsome, hagrees⟩ := h
  · refine ⟨fun _ => ⟨?_, hmigrated.toAgreesBeside⟩, fun hsome => absurd hnone hsome⟩
    rw [hmigrated.database, hnone]
    rfl
  · exact ⟨fun hnone => absurd hnone hsome, fun _ => hagrees⟩

end Migration

namespace Manager

variable {m : Manager} {p : PooledStore}

/-- A failure that waits for the lock to be given back comes up there and no sooner, with what was
applied in place. -/
theorem migratePooled_of_struck_unlock (hlends : p.Lends m.target.options)
    (hsound : Migration.Sound (p.store.server.database m.target.database))
    (hstruck : p.store.server.struck? .advisoryUnlock ≠ none) :
    (∃ error, (m.migratePooled p).1 = .error error) ∧
      Migration.Applied p.store.server (m.migratePooled p).2.store.server
        m.target.database := by
  cases hresult : (m.migratePooled p).1 with
  | ok done =>
    obtain ⟨_, _, hclear, _⟩ := migratePooled_ok hresult
    exact absurd hclear.unlock hstruck
  | error error =>
    refine ⟨⟨error, rfl⟩, ?_⟩
    obtain ⟨_, hnot⟩ | ⟨_, _, _, _, happlied⟩ := migratePooled_error hresult
    · exact absurd (Migration.Ready.of_struck hsound hstruck) (hnot hlends)
    · exact happlied

/-- A migration over a connection to a database that is there succeeds exactly if the failure that
waits is for none of its statements, every record is of the one known migration, unaltered and
finished, and where there is no record there is no table. If it succeeds, a database without records
gets an empty table and the one record, and a database with records is left exactly as it was. If it
fails, connection or not, the error is one of the migration, and every database is as it was, with
one exception: the lock is given back behind the end of the transaction, and a failure that strikes
there leaves what success leaves. -/
theorem migrate_all_or_nothing (m : Manager) (p : PooledStore) :
    let name := m.target.database
    let before := p.store.server.database name
    let result := (m.migratePooled p).1
    let after := (m.migratePooled p).2.store
    let sound := (∀ record ∈ before.applied, record.success = true) ∧
      (∀ record ∈ before.applied, record.version = 20250611120000 ∧ record.unaltered = true) ∧
      (before.applied = [] → before.rows = none)
    let late := p.Lends m.target.options ∧ sound ∧
      p.store.server.struck? .advisoryUnlock ≠ none
    let applied :=
      (before.applied = [] →
        after.server.database name = ⟨some [], [⟨20250611120000, true, true⟩]⟩ ∧
          p.store.server.AgreesBeside after.server name) ∧
      (before.applied ≠ [] → p.store.server.Agrees after.server)
    (m.Connects p →
      (result = .ok () ↔
        (∀ statement ∈ Migration.statements before, p.store.server.struck? statement = none) ∧
          sound)) ∧
    (result = .ok () → applied ∧ after.server.armed = p.store.server.armed) ∧
    (m.Connects p → late → (∃ error, result = .error error) ∧ applied) ∧
    ∀ error, result = .error error →
      (∃ cause, error = .migration cause) ∧ (¬ late → p.store.Agrees after) := by
  intro name before result after sound late applied
  have hsound : sound ↔ Migration.Sound before :=
    ⟨fun ⟨hfinished, hknown, hfresh⟩ => ⟨hfinished, hknown, hfresh⟩,
      fun h => ⟨h.finished, h.known, h.fresh⟩⟩
  refine ⟨?_, ?_, ?_, ?_⟩
  · intro hconnects
    rw [migratePooled_eq_ok_iff hconnects.lends, hsound]
    exact ⟨fun hclear => ⟨hclear.unstruck, hclear.sound⟩,
      fun ⟨hunstruck, hsound⟩ => ⟨hsound, hunstruck⟩⟩
  · intro hok
    obtain ⟨_, _, _, harmed, happlied⟩ := migratePooled_ok hok
    exact ⟨happlied.told, harmed⟩
  · rintro hconnects ⟨_, hbefore, hstruck⟩
    obtain ⟨hfails, happlied⟩ :=
      migratePooled_of_struck_unlock hconnects.lends (hsound.mp hbefore) hstruck
    exact ⟨hfails, happlied.told⟩
  · intro error herror
    refine ⟨migratePooled_error_kind herror, fun hnot => ?_⟩
    obtain ⟨hagrees, _⟩ | ⟨hlends, _, hready, hstruck, _⟩ := migratePooled_error herror
    · exact hagrees
    · exact absurd ⟨hlends, hsound.mpr hready.sound, hstruck⟩ hnot

/-- A failure that waits for the last statement of the transaction strikes when the table has been
made already, and there is no table afterwards. -/
theorem migrate_all_or_nothing_rollback :
    let m : Manager := ⟨⟨"postgres", "", 5432, "localhost", "waitlist", .disable⟩, false⟩
    let p : PooledStore := ⟨.ofSize 1, .server, ⟨[("waitlist", ⟨none, []⟩)], 0,
      some ⟨"bookkeeping", "40001", "could not serialize access"⟩, none⟩⟩
    m.Connects p ∧ (m.migratePooled p).1 ≠ .ok () ∧
      (m.migratePooled p).2.store.server.database "waitlist" = ⟨none, []⟩ := by
  intro m p
  have hconnects : m.Connects p := ⟨⟨_, rfl⟩, by decide⟩
  obtain ⟨hiff, _, _, hfailed⟩ := migrate_all_or_nothing m p
  have hnot : (m.migratePooled p).1 ≠ .ok () := by
    intro hok
    have hunstruck := ((hiff hconnects).mp hok).1 .bookkeeping (by decide)
    exact absurd hunstruck (by decide)
  refine ⟨hconnects, hnot, ?_⟩
  cases hresult : (m.migratePooled p).1 with
  | ok done => exact absurd hresult hnot
  | error error =>
    obtain ⟨_, hagrees⟩ := hfailed error hresult
    have hcalm : p.store.server.struck? .advisoryUnlock = none := by decide
    exact (hagrees fun ⟨_, _, hstruck⟩ => hstruck hcalm).server.database "waitlist"

/-- The lock is not given back, and the migration fails with the table and the record in place. -/
theorem migrate_fails_applied :
    let m : Manager := ⟨⟨"postgres", "", 5432, "localhost", "waitlist", .disable⟩, false⟩
    let p : PooledStore := ⟨.ofSize 1, .server, ⟨[("waitlist", ⟨none, []⟩)], 0,
      some ⟨"unlock", "57014", "canceling statement"⟩, none⟩⟩
    m.Connects p ∧
      (m.migratePooled p).1 = .error (.migration (.execute (.database "canceling statement"))) ∧
      (m.migratePooled p).2.store.server.database "waitlist" =
        ⟨some [], [⟨20250611120000, true, true⟩]⟩ := by
  intro m p
  exact ⟨⟨⟨_, rfl⟩, by decide⟩, by decide +kernel, by decide +kernel⟩

end Manager

end WaitingList
