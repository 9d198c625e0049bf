import WaitingList.Store.Server

namespace WaitingList

namespace Server

private theorem lookup_replace (entries : List (String × Database)) (name other : String)
    (d : Database) :
    (entries.map fun entry => if entry.1 == name then (name, d) else entry).lookup other =
      if other = name then (entries.lookup name).map fun _ => d else entries.lookup other := by
  induction entries with
  | nil => simp
  | cons entry rest ih =>
    obtain ⟨key, content⟩ := entry
    by_cases hkey : key = name
    · subst hkey
      by_cases hother : other = key
      · subst hother
        simp
      · have hne : (other == key) = false := by simpa using hother
        simpa [List.lookup_cons, hne, hother] using ih
    · by_cases hother : other = key
      · subst hother
        simp [hkey]
      · have hne : (other == key) = false := by simpa using hother
        have hname : (name == key) = false := by simpa using fun h => hkey h.symm
        simpa [List.lookup_cons, hne, hkey, hname] using ih

private theorem has_eq_isSome_lookup (s : Server) (name : String) :
    s.has name = (s.databases.lookup name).isSome := by
  unfold has
  induction s.databases with
  | nil => rfl
  | cons entry rest ih =>
    obtain ⟨key, content⟩ := entry
    by_cases hkey : key = name
    · subst hkey
      simp
    · have hne : (name == key) = false := by simpa using fun h => hkey h.symm
      simp [List.lookup_cons, hne, hkey, ih]

private theorem lookup_setDatabase (s : Server) (name other : String) (d : Database) :
    (s.setDatabase name d).databases.lookup other =
      if other = name then some d else s.databases.lookup other := by
  unfold setDatabase
  split
  next hhas =>
    rw [has_eq_isSome_lookup, Option.isSome_iff_exists] at hhas
    obtain ⟨content, hlookup⟩ := hhas
    simp only [lookup_replace, hlookup, Option.map_some]
  next hhas =>
    rw [has_eq_isSome_lookup, Option.not_isSome_iff_eq_none] at hhas
    simp only [List.lookup_append, List.lookup_cons, List.lookup_nil]
    by_cases hother : other = name
    · subst hother
      simp [hhas]
    · have hne : (other == name) = false := by simpa using hother
      simp [hne, hother]

/-- Putting a database in place shows under its own name and under no other, whether or not it was
there before. -/
@[simp]
theorem database_setDatabase (s : Server) (name other : String) (d : Database) :
    (s.setDatabase name d).database other = if other = name then d else s.database other := by
  simp only [database, lookup_setDatabase]
  split <;> rfl

@[simp]
theorem has_setDatabase (s : Server) (name other : String) (d : Database) :
    (s.setDatabase name d).has other = (decide (other = name) || s.has other) := by
  simp only [has_eq_isSome_lookup, lookup_setDatabase]
  split <;> simp [*]

private theorem lookup_removeDatabase (s : Server) (name other : String) :
    (s.removeDatabase name).databases.lookup other =
      if other = name then none else s.databases.lookup other := by
  unfold removeDatabase
  dsimp only
  induction s.databases with
  | nil => simp
  | cons entry rest ih =>
    obtain ⟨key, content⟩ := entry
    by_cases hkey : key = name
    · subst hkey
      by_cases hother : other = key
      · simpa [hother] using ih
      · have hne : (other == key) = false := by simpa using hother
        simpa [List.lookup_cons, hne, hother] using ih
    · by_cases hother : other = key
      · subst hother
        simp [hkey]
      · have hne : (other == key) = false := by simpa using hother
        simpa [List.lookup_cons, hne, hkey] using ih

/-- Removing a database takes away the one of its name and no other. -/
@[simp]
theorem has_removeDatabase (s : Server) (name other : String) :
    (s.removeDatabase name).has other = (decide (other ≠ name) && s.has other) := by
  simp only [has_eq_isSome_lookup, lookup_removeDatabase]
  split <;> simp [*]

theorem database_removeDatabase {s : Server} {name other : String} (hother : other ≠ name) :
    (s.removeDatabase name).database other = s.database other := by
  rw [database, lookup_removeDatabase, if_neg hother, database]

@[simp]
theorem writes_setDatabase (s : Server) (name : String) (d : Database) :
    (s.setDatabase name d).writes = s.writes := by
  unfold setDatabase
  split <;> rfl

@[simp]
theorem armed_setDatabase (s : Server) (name : String) (d : Database) :
    (s.setDatabase name d).armed = s.armed := by
  unfold setDatabase
  split <;> rfl

@[simp]
theorem password_setDatabase (s : Server) (name : String) (d : Database) :
    (s.setDatabase name d).password = s.password := by
  unfold setDatabase
  split <;> rfl

/-- The server once a statement has run in a database, which is there from then on. -/
def touch (s : Server) (name : String) : Server := s.setDatabase name (s.database name)

@[simp]
theorem database_touch (s : Server) (name other : String) :
    (s.touch name).database other = s.database other := by
  by_cases hother : other = name
  · subst hother
    simp [touch]
  · simp [touch, hother]

@[simp]
theorem writes_touch (s : Server) (name : String) : (s.touch name).writes = s.writes := by
  simp [touch]

@[simp]
theorem armed_touch (s : Server) (name : String) : (s.touch name).armed = s.armed := by
  simp [touch]

@[simp]
theorem password_touch (s : Server) (name : String) : (s.touch name).password = s.password := by
  simp [touch]

/-- The failure that a statement meets, if one waits for it. -/
def struck? (s : Server) (statement : Statement) : Option Failure :=
  s.armed.filter (·.hits statement)

/-- The server after the failure that waited was spent. -/
def disarm (s : Server) : Server := { s with armed := none }

@[simp]
theorem database_disarm (s : Server) (name : String) :
    s.disarm.database name = s.database name := rfl

@[simp]
theorem has_disarm (s : Server) (name : String) : s.disarm.has name = s.has name := rfl

@[simp]
theorem writes_disarm (s : Server) : s.disarm.writes = s.writes := rfl

@[simp]
theorem password_disarm (s : Server) : s.disarm.password = s.password := rfl

/-- A server that holds what another one holds. Only the failure that waits may differ, and a
database in which nothing was done may have come into being. -/
structure Agrees (s after : Server) : Prop where
  database : ∀ name, after.database name = s.database name
  writes : after.writes = s.writes
  password : after.password = s.password

namespace Agrees

theorem refl (s : Server) : s.Agrees s := ⟨fun _ => rfl, rfl, rfl⟩

theorem trans {s middle after : Server} (hfirst : s.Agrees middle)
    (hsecond : middle.Agrees after) : s.Agrees after where
  database name := (hsecond.database name).trans (hfirst.database name)
  writes := hsecond.writes.trans hfirst.writes
  password := hsecond.password.trans hfirst.password

theorem touch (s : Server) (name : String) : s.Agrees (s.touch name) :=
  ⟨fun _ => by simp, by simp, by simp⟩

theorem disarm (s : Server) : s.Agrees s.disarm := ⟨fun _ => rfl, rfl, rfl⟩

end Agrees

/-- A server that holds what another one holds, one database excepted. -/
structure AgreesBeside (s after : Server) (name : String) : Prop where
  others : ∀ other, other ≠ name → after.database other = s.database other
  writes : after.writes = s.writes
  password : after.password = s.password

namespace AgreesBeside

theorem of_agrees {s after : Server} (h : s.Agrees after) (name : String) :
    s.AgreesBeside after name :=
  ⟨fun other _ => h.database other, h.writes, h.password⟩

theorem setDatabase {s after : Server} {name : String} (h : s.AgreesBeside after name)
    (d : Database) : s.AgreesBeside (after.setDatabase name d) name where
  others other hother := by simp [hother, h.others other hother]
  writes := by simp [h.writes]
  password := by simp [h.password]

/-- Putting the excepted database back leaves no difference. -/
theorem restore {s after : Server} {name : String} (h : s.AgreesBeside after name) :
    s.Agrees (after.setDatabase name (s.database name)) where
  database other := by
    by_cases hother : other = name
    · simp [hother]
    · simp [hother, h.others other hother]
  writes := by simp [h.writes]
  password := by simp [h.password]

end AgreesBeside

end Server

namespace ServerWork

variable {ε ε' α β : Type}

/-- What work on a server comes to: its result, and the server that it leaves. -/
def outcome (work : ServerWork ε α) (s : Server) : Except ε α × Server := work.run.run s

theorem outcome_bind (work : ServerWork ε α) (next : α → ServerWork ε β) (s : Server) :
    (work >>= next).outcome s =
      match work.outcome s with
      | (.ok a, after) => (next a).outcome after
      | (.error error, after) => (.error error, after) := by
  change ((work.run >>= ExceptT.bindCont next).run s) = _
  simp only [outcome, StateT.run_bind]
  rcases hwork : work.run.run s with ⟨result, after⟩
  cases result <;> rfl

@[simp]
theorem outcome_pure (a : α) (s : Server) :
    (pure a : ServerWork ε α).outcome s = (.ok a, s) := rfl

@[simp]
theorem outcome_map (f : α → β) (work : ServerWork ε α) (s : Server) :
    (f <$> work).outcome s = ((work.outcome s).1.map f, (work.outcome s).2) := by
  rw [← bind_pure_comp, outcome_bind]
  rcases work.outcome s with ⟨_ | _, _⟩ <;> rfl

@[simp]
theorem outcome_throw (error : ε) (s : Server) :
    (throw error : ServerWork ε α).outcome s = (.error error, s) := rfl

@[simp]
theorem outcome_get (s : Server) : (get : ServerWork ε Server).outcome s = (.ok s, s) := rfl

@[simp]
theorem outcome_set (after s : Server) :
    (set after : ServerWork ε PUnit).outcome s = (.ok (), after) := rfl

@[simp]
theorem outcome_modify (f : Server → Server) (s : Server) :
    (modify f : ServerWork ε PUnit).outcome s = (.ok (), f s) := rfl

@[simp]
theorem outcome_adapt (f : ε → ε') (work : ServerWork ε α) (s : Server) :
    ServerWork.outcome (ExceptT.adapt f work : ServerWork ε' α) s =
      ((work.outcome s).1.mapError f, (work.outcome s).2) := by
  rfl

theorem outcome_tryCatch (work : ServerWork ε α) (handler : ε → ServerWork ε α) (s : Server) :
    ServerWork.outcome (tryCatch work handler) s =
      match work.outcome s with
      | (.ok a, after) => (.ok a, after)
      | (.error error, after) => (handler error).outcome after := by
  change ((tryCatch work handler : ServerWork ε α).run.run s) = _
  simp only [outcome, ExceptT.run_tryCatch, StateT.run_bind]
  rcases hwork : work.run.run s with ⟨result, after⟩
  cases result <;> rfl

/-- Work that ends in `good` if it succeeds and in `bad` if it fails. Both speak of the server that
is left, since failing work keeps what it did before. -/
def Ends (work : ServerWork ε α) (s : Server) (good : α → Server → Prop)
    (bad : Server → Prop) : Prop :=
  match work.outcome s with
  | (.ok a, after) => good a after
  | (.error _, after) => bad after

namespace Ends

variable {work : ServerWork ε α} {s : Server} {good : α → Server → Prop} {bad : Server → Prop}

theorem of_ok {a : α} (h : work.Ends s good bad) (hok : (work.outcome s).1 = .ok a) :
    good a (work.outcome s).2 := by
  unfold Ends at h
  rcases hwork : work.outcome s with ⟨result, after⟩
  rw [hwork] at h hok
  subst hok
  exact h

theorem of_error {error : ε} (h : work.Ends s good bad)
    (herror : (work.outcome s).1 = .error error) : bad (work.outcome s).2 := by
  unfold Ends at h
  rcases hwork : work.outcome s with ⟨result, after⟩
  rw [hwork] at h herror
  subst herror
  exact h

theorem mono {good' : α → Server → Prop} {bad' : Server → Prop} (h : work.Ends s good bad)
    (hgood : ∀ a after, good a after → good' a after) (hbad : ∀ after, bad after → bad' after) :
    work.Ends s good' bad' := by
  unfold Ends at *
  rcases hwork : work.outcome s with ⟨result, after⟩
  rw [hwork] at h
  cases result with
  | ok a => exact hgood a after h
  | error error => exact hbad after h

theorem bind {next : α → ServerWork ε β} {good' : β → Server → Prop} (h : work.Ends s good bad)
    (hnext : ∀ a after, good a after → (next a).Ends after good' bad) :
    (work >>= next).Ends s good' bad := by
  unfold Ends at *
  rw [outcome_bind]
  rcases hwork : work.outcome s with ⟨result, after⟩
  rw [hwork] at h
  cases result with
  | ok a => exact hnext a after h
  | error error => exact h

theorem throw_bind {error : ε} {next : α → ServerWork ε β} {good' : β → Server → Prop}
    (h : bad s) : ServerWork.Ends (throw error >>= next) s good' bad := by
  rw [Ends, outcome_bind, outcome_throw]
  exact h

theorem adapt {f : ε → ε'} (h : work.Ends s good bad) :
    ServerWork.Ends (ExceptT.adapt f work : ServerWork ε' α) s good bad := by
  unfold Ends at *
  rw [outcome_adapt]
  rcases hwork : work.outcome s with ⟨result, after⟩
  rw [hwork] at h
  cases result <;> exact h

theorem tryCatch {bad' : Server → Prop} {handler : ε → ServerWork ε α} (h : work.Ends s good bad)
    (hhandler : ∀ error after, bad after → (handler error).Ends after good bad') :
    ServerWork.Ends (tryCatch work handler) s good bad' := by
  unfold Ends at *
  rw [outcome_tryCatch]
  rcases hwork : work.outcome s with ⟨result, after⟩
  rw [hwork] at h
  cases result with
  | ok a => exact h
  | error error => exact hhandler error after h

end Ends

/-- A statement meets the failure that waits for it, and spends it. -/
theorem outcome_attempt (statement : Statement) (s : Server) :
    (attempt statement).outcome s =
      match s.struck? statement with
      | some failure => (.error (.database failure.text), s.disarm)
      | none => (.ok (), s) := by
  rw [attempt, outcome_bind, outcome_get]
  cases harmed : s.armed with
  | none => simp [Server.struck?, harmed]
  | some failure =>
    by_cases hhits : failure.hits statement
    · have hstruck : s.struck? statement = some failure := by
        simp [Server.struck?, harmed, hhits]
      simp [hstruck, harmed, hhits, Server.disarm, outcome_bind]
    · have hstruck : s.struck? statement = none := by simp [Server.struck?, harmed, hhits]
      simp [hstruck, harmed, hhits]

/-- A statement in a database answers with what the database holds. Whether a failure strikes it
shows in nothing that the server holds. -/
theorem outcome_attemptIn (name : String) (statement : Statement) (s : Server) :
    (attemptIn name statement).outcome s =
      match s.struck? statement with
      | some failure => (.error (.database failure.text), (s.touch name).disarm)
      | none => (.ok (s.database name), s.touch name) := by
  have hstruck : (s.touch name).struck? statement = s.struck? statement := by
    simp [Server.struck?]
  rw [attemptIn, outcome_bind, outcome_modify]
  change ServerWork.outcome _ (s.touch name) = _
  rw [outcome_bind, outcome_attempt, hstruck]
  cases s.struck? statement with
  | none => simp [Except.map]
  | some failure => rfl

end ServerWork

end WaitingList
