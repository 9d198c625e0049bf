import WaitingList.Proofs.Service.Restart
import WaitingList.Proofs.Store.Isolation
import WaitingList.Service.Roster

namespace WaitingList

open Manager (forTest testDatabaseName)

namespace Server

/-- A database is there and was brought up to date. -/
structure InUse (s : Server) (name : String) : Prop where
  there : s.has name = true
  table : (s.database name).rows.isSome = true
  applied : (s.database name).applied = [⟨20250611120000, true, true⟩]

namespace InUse

variable {s after : Server} {name : String}

theorem congr (hdatabases : after.databases = s.databases) (h : s.InUse name) :
    after.InUse name := by
  refine ⟨?_, ?_, ?_⟩
  · rw [has_congr hdatabases, h.there]
  · rw [database_congr hdatabases, h.table]
  · rw [database_congr hdatabases, h.applied]

theorem change (hthere : after.has name = true)
    (hchange : (s.database name).Change (after.database name)) (h : s.InUse name) :
    after.InUse name := by
  have htable := hchange.table h.table
  obtain ⟨hnone, _⟩ | ⟨_, happlied⟩ := hchange.consistent (.inr ⟨h.table, h.applied⟩)
  · rw [hnone] at htable
    cases htable
  · exact ⟨hthere, htable, happlied⟩

/-- A database that is new on the server is another one than any that is in use. -/
theorem behind {new : String} {d : Database} (hnew : s.has new = false)
    (hdatabases : after.databases = s.databases ++ [(new, d)]) (h : s.InUse name) :
    after.InUse name := by
  have hname : name ≠ new := by
    rintro rfl
    rw [h.there] at hnew
    cases hnew
  have hset : (s.setDatabase new d).InUse name := by
    refine ⟨?_, ?_, ?_⟩
    · simp [h.there]
    · simp [hname, h.table]
    · simp [hname, h.applied]
  exact hset.congr (hdatabases.trans (databases_setDatabase_new hnew d).symm)

theorem removed {other : String} (hname : name ≠ other)
    (hdatabases : after.databases = s.databases.filter (·.1 != other)) (h : s.InUse name) :
    after.InUse name := by
  have hremoved : (s.removeDatabase other).InUse name := by
    refine ⟨?_, ?_, ?_⟩
    · simp [hname, h.there]
    · rw [database_removeDatabase hname, h.table]
    · rw [database_removeDatabase hname, h.applied]
  exact hremoved.congr hdatabases

end InUse

end Server

namespace Service

/-- A submission works in the database of the service's manager. -/
theorem subscribe_spares (service : Service) (body : Body) (store : Store) :
    store.server.Spares (service.subscribe body store).2.server
      service.manager.target.database := by
  cases hsubmission : body.submission service.policy with
  | error error =>
    rw [subscribe_of_refused hsubmission]
    exact .refl _ _
  | ok address =>
    rw [(subscribe_of_address hsubmission).1]
    exact service.manager.upsert_spares address.text store

end Service

namespace Roster

variable {target : ConnectionTarget} {policy : EmailPolicy} {r after : Roster}

/-- The roster at the end of a run. -/
def atEnd (r : Roster) (target : ConnectionTarget) (policy : EmailPolicy)
    (steps : List RosterStep) : Roster :=
  ((r.run target policy steps).getLast?.map Prod.snd).getD r

@[simp]
theorem atEnd_cons (s : RosterStep) (rest : List RosterStep) :
    r.atEnd target policy (s :: rest) = (r.step target policy s).2.atEnd target policy rest := by
  rw [atEnd, run, List.getLast?_cons, atEnd]
  cases ((r.step target policy s).2.run target policy rest).getLast? <;> rfl

/-- The manager in a place owns the database of a name. -/
def Owns (r : Roster) (place : Nat) (name : String) : Prop :=
  (r.manager? place).bind Manager.ownDatabase? = some name

theorem manager?_congr (hmanagers : after.managers = r.managers) (place : Nat) :
    after.manager? place = r.manager? place := by
  rw [manager?, manager?, hmanagers]

/-- A manager that is added has the place behind all others. -/
theorem manager?_append {m : Manager} (hmanagers : after.managers = r.managers ++ [some m])
    (place : Nat) :
    after.manager? place = if place = r.managers.length then some m else r.manager? place := by
  rw [manager?, manager?, hmanagers, List.getElem?_append]
  obtain hlt | rfl | hgt := Nat.lt_trichotomy place r.managers.length
  · rw [if_pos hlt, if_neg (by omega)]
  · simp
  · have hbehind : r.managers[place]? = none := List.getElem?_eq_none (by omega)
    rw [if_neg (by omega), if_neg (by omega), hbehind, List.getElem?_eq_none (by simp; omega)]

theorem manager?_set {place : Nat} (hmanagers : after.managers = r.managers.set place none)
    (other : Nat) : after.manager? other = if other = place then none else r.manager? other := by
  rw [manager?, manager?, hmanagers, List.getElem?_set]
  by_cases hother : place = other
  · rw [if_pos hother, if_pos hother.symm]
    split <;> rfl
  · rw [if_neg hother, if_neg (Ne.symm hother)]

/-- The database that a step works in, if it works in one. -/
def database? (r : Roster) : RosterStep → Option String
  | .addTest token => some (testDatabaseName token)
  | .act place _ => (r.manager? place).map (·.target.database)
  | .add => none
  | .fail _ => none

theorem ownDatabase?_eq_some {m : Manager} {name : String} (howns : m.ownDatabase? = some name) :
    m.target.database = name := by
  unfold Manager.ownDatabase? at howns
  split at howns
  · exact Option.some.inj howns
  · cases howns

/-- What a step does to the managers in their places and to the databases. -/
inductive Effect (target : ConnectionTarget) (r after : Roster) : RosterStep → Prop where
  | kept {s : RosterStep} (hmanagers : after.managers = r.managers)
      (hdatabases : after.store.server.databases = r.store.server.databases) :
      Effect target r after s
  | added (hmanagers : after.managers = r.managers ++ [some (.ofTarget target)])
      (hdatabases : after.store.server.databases = r.store.server.databases) :
      Effect target r after .add
  | made {token : String} (hfresh : r.store.server.has (testDatabaseName token) = false)
      (hmanagers : after.managers = r.managers ++ [some (forTest target token)])
      (hdatabases : after.store.server.databases =
        r.store.server.databases ++ [(testDatabaseName token, ⟨some [], [Migration.record]⟩)]) :
      Effect target r after (.addTest token)
  | abandoned {token : String} {left : Database}
      (hfresh : r.store.server.has (testDatabaseName token) = false)
      (hmanagers : after.managers = r.managers)
      (hdatabases : after.store.server.databases =
        r.store.server.databases ++ [(testDatabaseName token, left)]) :
      Effect target r after (.addTest token)
  | worked {place : Nat} {action : ManagerAction} {m : Manager} (hm : r.manager? place = some m)
      (hmanagers : after.managers = r.managers)
      (hspares : r.store.server.Spares after.store.server m.target.database)
      (hchange : ∀ name, (r.store.server.database name).Change
        (after.store.server.database name)) :
      Effect target r after (.act place action)
  | closed {place : Nat} (hmanagers : after.managers = r.managers.set place none)
      (hdatabases : after.store.server.databases = r.store.server.databases) :
      Effect target r after (.act place .close)
  | dropped {place : Nat} {name : String} (howns : r.Owns place name)
      (hmanagers : after.managers = r.managers.set place none)
      (hdatabases : after.store.server.databases =
        r.store.server.databases.filter (·.1 != name)) :
      Effect target r after (.act place .close)

theorem act_effect {place : Nat} {m : Manager} (hm : r.manager? place = some m)
    (action : ManagerAction) :
    Effect target r (r.act target policy place m action).2 (.act place action) := by
  cases action with
  | name => exact .kept rfl rfl
  | closed => exact .kept rfl rfl
  | migrate =>
    exact .worked hm rfl (m.migrate_spares r.store) (m.migrate_change r.store)
  | subscribe body =>
    have heffect := (Service.mk m policy).subscribe_effect body r.store
    exact .worked hm rfl ((Service.mk m policy).subscribe_spares body r.store) heffect.change
  | close =>
    cases howns : m.ownDatabase? with
    | none =>
      refine .closed rfl ?_
      exact congrArg (·.store.server.databases) (Manager.close_shared howns target none r.store)
    | some name =>
      obtain ⟨_, hsame⟩ | ⟨hremoved, _⟩ := Manager.close_own howns target none r.store
      · exact .closed rfl hsame
      · have hplace : r.Owns place name := by rw [Owns, hm, Option.bind_some, howns]
        exact .dropped hplace rfl hremoved

/-- Everything that a step can do, whether it succeeds or fails. -/
theorem step_effect (r : Roster) (target : ConnectionTarget) (policy : EmailPolicy)
    (s : RosterStep) : Effect target r (r.step target policy s).2 s := by
  cases s with
  | add => exact .added rfl rfl
  | fail failure => exact .kept rfl rfl
  | addTest token =>
    simp only [step]
    cases hresult : (Manager.ofTest target 1 token none r.store).result with
    | ok m =>
      obtain ⟨rfl, hfresh, hdatabases⟩ := Manager.databases_of_ofTest_ok hresult
      exact .made hfresh rfl hdatabases
    | error error =>
      obtain hsame | ⟨hfresh, left, hbehind⟩ := Manager.databases_of_ofTest_error hresult
      · exact .kept rfl hsame
      · exact .abandoned hfresh rfl hbehind
  | act place action =>
    simp only [step]
    cases hm : r.manager? place with
    | none => exact .kept rfl rfl
    | some m => exact act_effect hm action

/-- A step leaves every database but the one that it works in as it is, there or not. -/
theorem Effect.frame {s : RosterStep} (h : Effect target r after s) {name : String}
    (hname : r.database? s ≠ some name) :
    after.store.server.has name = r.store.server.has name ∧
      after.store.server.database name = r.store.server.database name := by
  have hbehind {token : String} {d : Database}
      (hfresh : r.store.server.has (testDatabaseName token) = false)
      (hdatabases : after.store.server.databases =
        r.store.server.databases ++ [(testDatabaseName token, d)])
      (hother : name ≠ testDatabaseName token) :
      after.store.server.has name = r.store.server.has name ∧
        after.store.server.database name = r.store.server.database name := by
    have hset := hdatabases.trans (Server.databases_setDatabase_new hfresh d).symm
    rw [Server.has_congr hset, Server.database_congr hset]
    simp [hother]
  cases h with
  | kept _ hdatabases =>
    exact ⟨Server.has_congr hdatabases name, Server.database_congr hdatabases name⟩
  | added _ hdatabases =>
    exact ⟨Server.has_congr hdatabases name, Server.database_congr hdatabases name⟩
  | closed _ hdatabases =>
    exact ⟨Server.has_congr hdatabases name, Server.database_congr hdatabases name⟩
  | made hfresh _ hdatabases =>
    exact hbehind hfresh hdatabases fun heq => hname (congrArg some heq.symm)
  | abandoned hfresh _ hdatabases =>
    exact hbehind hfresh hdatabases fun heq => hname (congrArg some heq.symm)
  | worked hm _ hspares _ =>
    apply hspares.others
    rintro rfl
    exact hname (by rw [database?, hm, Option.map_some])
  | @dropped place owned howns _ hdatabases =>
    have hremoved : after.store.server.databases =
        (r.store.server.removeDatabase owned).databases := hdatabases
    have hother : name ≠ owned := by
      rintro rfl
      obtain ⟨m, hm, howned⟩ := Option.bind_eq_some_iff.mp howns
      exact hname (by rw [database?, hm, Option.map_some, ownDatabase?_eq_some howned])
    rw [Server.has_congr hremoved, Server.database_congr hremoved,
      Server.database_removeDatabase hother]
    simp [hother]

/-- What is so of managers wherever a run has led: no two own one database, an own database is in
use, and whoever owns none works in the database of the target. -/
structure Settled (r : Roster) (target : ConnectionTarget) : Prop where
  distinct : ∀ {place other : Nat} {name : String}, r.Owns place name → r.Owns other name →
    other = place
  inUse : ∀ {place : Nat} {name : String}, r.Owns place name → r.store.server.InUse name
  shared : ∀ {place : Nat} {m : Manager}, r.manager? place = some m → m.ownDatabase? = none →
    m.target = target

namespace Settled

theorem start (store : Store) : Settled ⟨[], store⟩ target := by
  constructor
  · rintro place other name ⟨⟩
  · rintro place name ⟨⟩
  · rintro place m ⟨⟩

/-- It is enough that no manager came and that own databases stayed in use. -/
theorem of_fewer (h : r.Settled target)
    (hfewer : ∀ place m, after.manager? place = some m → r.manager? place = some m)
    (hinUse : ∀ place name, after.Owns place name → r.store.server.InUse name →
      after.store.server.InUse name) : after.Settled target := by
  have howned {place : Nat} {name : String} (howns : after.Owns place name) :
      r.Owns place name := by
    obtain ⟨m, hm, hname⟩ := Option.bind_eq_some_iff.mp howns
    rw [Owns, hfewer place m hm, Option.bind_some, hname]
  constructor
  · intro place other name hplace hother
    exact h.distinct (howned hplace) (howned hother)
  · intro place name hplace
    exact hinUse place name hplace (h.inUse (howned hplace))
  · intro place m hm hnone
    exact h.shared (hfewer place m hm) hnone

/-- A place that was emptied has no manager, and every other one has the manager that it had. -/
theorem fewer_of_set {place : Nat} (hmanagers : after.managers = r.managers.set place none)
    (other : Nat) (m : Manager) (hm : after.manager? other = some m) :
    r.manager? other = some m ∧ other ≠ place := by
  rw [manager?_set hmanagers] at hm
  split at hm
  · cases hm
  next hother => exact ⟨hm, hother⟩

/-- The new manager owns nothing. -/
theorem added (h : r.Settled target)
    (hmanagers : after.managers = r.managers ++ [some (.ofTarget target)])
    (hdatabases : after.store.server.databases = r.store.server.databases) :
    after.Settled target := by
  have howned {place : Nat} {name : String} (howns : after.Owns place name) :
      r.Owns place name := by
    rw [Owns, manager?_append hmanagers] at howns
    split at howns
    · cases howns
    · exact howns
  constructor
  · intro place other name hplace hother
    exact h.distinct (howned hplace) (howned hother)
  · intro place name hplace
    exact (h.inUse (howned hplace)).congr hdatabases
  · intro place m hm hnone
    rw [manager?_append hmanagers] at hm
    split at hm
    · obtain rfl := Option.some.inj hm
      rfl
    · exact h.shared hm hnone

/-- The database of the new manager was not there before, so no other one owns it. -/
theorem made {token : String} (h : r.Settled target)
    (hfresh : r.store.server.has (testDatabaseName token) = false)
    (hmanagers : after.managers = r.managers ++ [some (forTest target token)])
    (hdatabases : after.store.server.databases =
      r.store.server.databases ++ [(testDatabaseName token, ⟨some [], [Migration.record]⟩)]) :
    after.Settled target := by
  have howned {place : Nat} {name : String} (howns : after.Owns place name) :
      place = r.managers.length ∧ name = testDatabaseName token ∨
        r.Owns place name ∧ name ≠ testDatabaseName token := by
    rw [Owns, manager?_append hmanagers] at howns
    split at howns
    next hplace => exact .inl ⟨hplace, (Option.some.inj howns).symm⟩
    next =>
      refine .inr ⟨howns, ?_⟩
      rintro rfl
      rw [(h.inUse howns).there] at hfresh
      cases hfresh
  constructor
  · intro place other name hplace hother
    obtain ⟨rfl, rfl⟩ | ⟨hbefore, hname⟩ := howned hplace
    · obtain ⟨rfl, _⟩ | ⟨_, hname⟩ := howned hother
      · rfl
      · exact absurd rfl hname
    · obtain ⟨_, heq⟩ | ⟨hotherBefore, _⟩ := howned hother
      · exact absurd heq hname
      · exact h.distinct hbefore hotherBefore
  · intro place name hplace
    obtain ⟨_, rfl⟩ | ⟨hbefore, _⟩ := howned hplace
    · have hlast := Server.database_last hfresh hdatabases
      refine ⟨?_, ?_, ?_⟩
      · simp [Server.has, hdatabases]
      · rw [hlast, Option.isSome_some]
      · rw [hlast]
        rfl
    · exact (h.inUse hbefore).behind hfresh hdatabases
  · intro place m hm hnone
    rw [manager?_append hmanagers] at hm
    split at hm
    · obtain rfl := Option.some.inj hm
      cases hnone
    · exact h.shared hm hnone

/-- Whatever a step does keeps it so. -/
theorem effect {s : RosterStep} (h : r.Settled target) (heffect : Effect target r after s) :
    after.Settled target := by
  have hstay (hmanagers : after.managers = r.managers) (place : Nat) (m : Manager)
      (hm : after.manager? place = some m) : r.manager? place = some m :=
    (manager?_congr hmanagers place).symm.trans hm
  cases heffect with
  | kept hmanagers hdatabases =>
    exact h.of_fewer (hstay hmanagers) fun _ _ _ hbefore => hbefore.congr hdatabases
  | added hmanagers hdatabases => exact h.added hmanagers hdatabases
  | made hfresh hmanagers hdatabases => exact h.made hfresh hmanagers hdatabases
  | abandoned hfresh hmanagers hdatabases =>
    exact h.of_fewer (hstay hmanagers) fun _ _ _ hbefore => hbefore.behind hfresh hdatabases
  | worked _ hmanagers hspares hchange =>
    refine h.of_fewer (hstay hmanagers) fun _ name _ hbefore => ?_
    exact hbefore.change (hspares.has hbefore.there) (hchange name)
  | closed hmanagers hdatabases =>
    refine h.of_fewer (fun other m hm => (fewer_of_set hmanagers other m hm).1) ?_
    exact fun _ _ _ hbefore => hbefore.congr hdatabases
  | @dropped place owned howns hmanagers hdatabases =>
    refine h.of_fewer (fun other m hm => (fewer_of_set hmanagers other m hm).1) ?_
    intro other name hother hbefore
    obtain ⟨m, hm, hname⟩ := Option.bind_eq_some_iff.mp hother
    obtain ⟨hm, hne⟩ := fewer_of_set hmanagers other m hm
    have hotherOwns : r.Owns other name := by rw [Owns, hm, Option.bind_some, hname]
    refine hbefore.removed ?_ hdatabases
    rintro rfl
    exact hne (h.distinct howns hotherOwns)

/-- A whole run keeps it so. -/
theorem run (h : r.Settled target) (steps : List RosterStep) :
    (r.atEnd target policy steps).Settled target := by
  induction steps generalizing r with
  | nil => exact h
  | cons s rest ih =>
    rw [atEnd_cons]
    exact ih (h.effect (r.step_effect target policy s))

end Settled

/-- The token is used a second time, which makes no third manager, and the first one is closed. -/
example :
    let target : ConnectionTarget := ⟨"postgres", "", 5432, "localhost", "waitlist", .disable⟩
    let now := atEnd ⟨[], ⟨.server, .empty⟩⟩ target .minimal
      [.addTest "0a", .addTest "0b", .addTest "0a", .act 0 .close]
    now.managers = [none, some (forTest target "0b")] ∧
      now.store.server.databases = [("test_0b", ⟨some [], [Migration.record]⟩)] := by
  decide +kernel

end Roster

end WaitingList
