import WaitingList.Proofs.Store.Lockstep
import WaitingList.Proofs.Store.Manager

namespace WaitingList

theorem Row.mem_emails_write {rows : List Row} {email other : String} {number : Nat} :
    other ∈ (write rows email number).map Row.email ↔
      other ∈ rows.map Row.email ∨ other = email := by
  simp only [List.mem_map, mem_write]
  constructor
  · rintro ⟨row, ⟨hrow, _⟩ | rfl, rfl⟩
    · exact .inl ⟨row, hrow, rfl⟩
    · exact .inr rfl
  · rintro (⟨row, hrow, rfl⟩ | rfl)
    · by_cases hsame : row.email = email
      · exact ⟨⟨email, number⟩, .inr rfl, hsame.symm⟩
      · exact ⟨row, .inl ⟨hrow, hsame⟩, rfl⟩
    · exact ⟨⟨other, number⟩, .inr rfl, rfl⟩

namespace Database

/-- The addresses that a database stores. -/
def emails (d : Database) : List String := (d.rows.getD []).map Row.email

/-- A database that stores no other addresses than a second one, and in which a migration finds the
same. -/
structure Within (d d' : Database) : Prop where
  applied : d'.applied = d.applied
  table : d'.rows.isSome = d.rows.isSome
  emails : ∀ email ∈ d.emails, email ∈ d'.emails

theorem Within.refl (d : Database) : d.Within d := ⟨rfl, rfl, fun _ h => h⟩

end Database

namespace Server

/-- A write adds its address to its database and changes nothing else of what is stored. -/
theorem Wrote.mem_emails {s after : Server} {name email : String} (h : s.Wrote after name email)
    (place other : String) : other ∈ (after.database place).emails ↔
      other ∈ (s.database place).emails ∨ place = name ∧ other = email := by
  by_cases hplace : place = name
  · subst hplace
    obtain ⟨rows, hrows, hafter⟩ := h.rows
    simp only [Database.emails, hrows, hafter, Option.getD_some, Row.mem_emails_write, true_and]
  · rw [h.others place hplace]
    simp [hplace]

theorem Wrote.table {s after : Server} {name email : String} (h : s.Wrote after name email)
    (place : String) :
    (after.database place).rows.isSome = (s.database place).rows.isSome := by
  by_cases hplace : place = name
  · subst hplace
    obtain ⟨rows, hrows, hafter⟩ := h.rows
    rw [hrows, hafter, Option.isSome_some, Option.isSome_some]
  · rw [h.others place hplace]

theorem Wrote.applied_eq {s after : Server} {name email : String} (h : s.Wrote after name email)
    (place : String) : (after.database place).applied = (s.database place).applied := by
  by_cases hplace : place = name
  · rw [hplace, h.applied]
  · rw [h.others place hplace]

/-- What an upsert comes to: the address is written, or the failure strikes that waits for it, or
there is no table. -/
inductive Upserted (s : Server) (name email : String) : Except StoreError Unit × Server → Prop where
  | written {after : Server} (hcalm : s.struck? .upsert = none)
      (hwrote : s.Wrote after name email) (harmed : after.armed = s.armed) :
      Upserted s name email (.ok (), after)
  | struck {error : StoreError} {after : Server} {failure : Failure}
      (hstruck : s.struck? .upsert = some failure) (hagrees : s.Agrees after)
      (harmed : after.armed = none) : Upserted s name email (.error error, after)
  | absent {error : StoreError} {after : Server} (hcalm : s.struck? .upsert = none)
      (hrows : (s.database name).rows = none) (hawaits : s.Awaits after) :
      Upserted s name email (.error error, after)

theorem upserted (s : Server) (name email : String) :
    s.Upserted name email ((ServerWork.upsert name email).outcome s) := by
  have heffect := ServerWork.upsert_effect name email s
  rw [ServerWork.Ends] at heffect
  rw [ServerWork.outcome_upsert] at heffect ⊢
  cases hstruck : s.struck? .upsert with
  | some failure =>
    rw [hstruck] at heffect
    exact .struck hstruck heffect rfl
  | none =>
    cases hrows : (s.database name).rows with
    | none => exact .absent hstruck hrows ((Awaits.refl s).touch name)
    | some rows =>
      rw [hstruck, hrows] at heffect
      exact .written hstruck heffect ((armed_setDatabase ..).trans (armed_touch ..))

/-- The failures that wait on two servers: one and the same, unless it is one for an upsert that was
spent on the second. -/
def Outlasts (armed armed' : Option Failure) : Prop :=
  armed' = armed ∨
    armed' = none ∧ ∃ failure, armed = some failure ∧ failure.hits .upsert = true

/-- A server whose databases store no other addresses than those of a second one, where no more was
spent than a failure for an upsert. -/
structure Within (s s' : Server) : Prop where
  password : s'.password = s.password
  armed : Outlasts s.armed s'.armed
  databases : ∀ name, (s.database name).Within (s'.database name)

namespace Within

variable {s s' after after' : Server} {name email : String}

theorem refl (s : Server) : s.Within s := ⟨rfl, .inl rfl, fun _ => .refl _⟩

/-- Where an upsert meets the failure on the second server, it meets it on the first. -/
theorem calm (h : s.Within s') (hcalm : s.struck? .upsert = none) :
    s'.struck? .upsert = none := by
  obtain heq | ⟨hnone, _⟩ := h.armed
  · rw [struck?, heq]
    exact hcalm
  · rw [struck?, hnone, Option.filter_none]

/-- A failure that strikes on the first server alone was spent on the second. -/
theorem spent {failure : Failure} (h : s.Within s') (hstruck : s.struck? .upsert = some failure)
    (hcalm : s'.struck? .upsert = none) : s'.armed = none := by
  obtain heq | ⟨hnone, _⟩ := h.armed
  · rw [struck?, heq] at hcalm
    rw [struck?, hcalm] at hstruck
    cases hstruck
  · exact hnone

/-- Servers stay so related if nothing that they hold changes and the failures that wait stay
related. -/
theorem of_agrees (h : s.Within s') (hagrees : s.Agrees after) (hagrees' : s'.Agrees after')
    (harmed : Outlasts after.armed after'.armed) :
    after.Within after' where
  password := by rw [hagrees'.password, hagrees.password, h.password]
  armed := harmed
  databases place := by
    rw [hagrees.database, hagrees'.database]
    exact h.databases place

/-- A write on the second server only adds to what is stored there. -/
theorem wrote_right (h : s.Within s') (hagrees : s.Agrees after)
    (hwrote : s'.Wrote after' name email)
    (harmed : Outlasts after.armed after'.armed) :
    after.Within after' where
  password := by rw [hwrote.password, hagrees.password, h.password]
  armed := harmed
  databases place := by
    have hwithin := h.databases place
    rw [hagrees.database]
    refine ⟨?_, ?_, ?_⟩
    · rw [hwrote.applied_eq, hwithin.applied]
    · rw [hwrote.table, hwithin.table]
    · intro other hother
      exact (hwrote.mem_emails place other).mpr (.inl (hwithin.emails other hother))

theorem wrote (h : s.Within s') (hwrote : s.Wrote after name email)
    (hwrote' : s'.Wrote after' name email) (harmed : after.armed = s.armed)
    (harmed' : after'.armed = s'.armed) : after.Within after' where
  password := by rw [hwrote'.password, hwrote.password, h.password]
  armed := by
    rw [harmed, harmed']
    exact h.armed
  databases place := by
    have hwithin := h.databases place
    refine ⟨?_, ?_, ?_⟩
    · rw [hwrote'.applied_eq, hwrote.applied_eq, hwithin.applied]
    · rw [hwrote'.table, hwrote.table, hwithin.table]
    · intro other hother
      apply (hwrote'.mem_emails place other).mpr
      exact ((hwrote.mem_emails place other).mp hother).imp_left (hwithin.emails other)

theorem rows_eq_none_iff (h : s.Within s') (name : String) :
    (s'.database name).rows = none ↔ (s.database name).rows = none := by
  rw [← Option.not_isSome_iff_eq_none, ← Option.not_isSome_iff_eq_none, (h.databases name).table]

/-- An upsert on both servers keeps them so related, and where it succeeds on the first it does so
on the second. -/
theorem upserted {result result' : Except StoreError Unit} (h : s.Within s')
    (hupserted : s.Upserted name email (result, after))
    (hupserted' : s'.Upserted name email (result', after')) :
    after.Within after' ∧ (result = .ok () → result' = .ok ()) := by
  cases hupserted with
  | written hcalm hwrote harmed =>
    cases hupserted' with
    | written _ hwrote' harmed' => exact ⟨h.wrote hwrote hwrote' harmed harmed', fun _ => rfl⟩
    | struck hstruck' _ _ =>
      rw [h.calm hcalm] at hstruck'
      cases hstruck'
    | absent _ hrows' _ =>
      obtain ⟨rows, hrows, _⟩ := hwrote.rows
      rw [h.rows_eq_none_iff, hrows] at hrows'
      cases hrows'
  | struck hstruck hagrees harmed =>
    refine ⟨?_, fun hok => by cases hok⟩
    cases hupserted' with
    | written hcalm' hwrote' harmed' =>
      refine h.wrote_right hagrees hwrote' (.inl ?_)
      rw [harmed', harmed, h.spent hstruck hcalm']
    | struck _ hagrees' harmed' =>
      exact h.of_agrees hagrees hagrees' (.inl (harmed'.trans harmed.symm))
    | absent hcalm' _ hawaits' =>
      refine h.of_agrees hagrees hawaits'.toAgrees (.inl ?_)
      rw [hawaits'.armed, harmed, h.spent hstruck hcalm']
  | absent hcalm hrows hawaits =>
    refine ⟨?_, fun hok => by cases hok⟩
    cases hupserted' with
    | written _ hwrote' _ =>
      obtain ⟨rows, hrows', _⟩ := hwrote'.rows
      rw [(h.rows_eq_none_iff name).mpr hrows] at hrows'
      cases hrows'
    | struck hstruck' _ _ =>
      rw [h.calm hcalm] at hstruck'
      cases hstruck'
    | absent _ _ hawaits' =>
      refine h.of_agrees hawaits.toAgrees hawaits'.toAgrees ?_
      rw [hawaits.armed, hawaits'.armed]
      exact h.armed

/-- An upsert on the second server alone keeps them so related, whatever comes of it. -/
theorem upserted_right {result' : Except StoreError Unit} (h : s.Within s')
    (hupserted' : s'.Upserted name email (result', after')) : s.Within after' := by
  cases hupserted' with
  | written _ hwrote' harmed' =>
    refine h.wrote_right (.refl s) hwrote' ?_
    rw [harmed']
    exact h.armed
  | struck hstruck' hagrees' harmed' =>
    refine h.of_agrees (.refl s) hagrees' ?_
    obtain ⟨hwaits', hhits⟩ := Option.filter_eq_some_iff.mp hstruck'
    obtain heq | ⟨hnone, _⟩ := h.armed
    · exact .inr ⟨harmed', _, heq.symm.trans hwaits', hhits⟩
    · rw [hnone] at hwaits'
      cases hwaits'
  | absent _ _ hawaits' =>
    refine h.of_agrees (.refl s) hawaits'.toAgrees ?_
    rw [hawaits'.armed]
    exact h.armed

end Within

/-- Statements other than upserts cannot tell the two servers apart. -/
theorem lockstep_within : Lockstep Within Database.Within where
  struck h statement hother := by
    obtain heq | ⟨hnone, failure, hsome, hupsert⟩ := h.armed
    · rw [struck?, heq, struck?]
    · have hmiss := Failure.hits_of_ne hupsert hother.symm
      simp [struck?, hnone, hsome, hmiss]
  disarm h := ⟨h.password, .inl rfl, h.databases⟩
  database h := h.databases
  setDatabase h hd name := by
    refine ⟨?_, ?_, ?_⟩
    · rw [password_setDatabase, password_setDatabase, h.password]
    · rw [armed_setDatabase, armed_setDatabase]
      exact h.armed
    · intro other
      rw [database_setDatabase, database_setDatabase]
      split
      · exact hd
      · exact h.databases other
  table hd := hd.table
  applied hd := hd.applied
  created hd := ⟨hd.applied, rfl, fun _ hemail => hemail⟩
  noted hd _ := ⟨rfl, hd.table, hd.emails⟩

end Server

namespace Store

/-- A store that is reached like a second one and holds no other addresses. -/
structure Within (store store' : Store) : Prop where
  reach : store'.reach = store.reach
  server : store.server.Within store'.server

namespace Within

variable {store store' : Store}

theorem refl (store : Store) : store.Within store := ⟨rfl, .refl _⟩

theorem arm (h : store.Within store') (failure : Failure) :
    (store.arm failure).Within (store'.arm failure) :=
  ⟨h.reach, h.server.password, .inl rfl, h.server.databases⟩

theorem refusal? (h : store.Within store') (use : ConnectionUse) (options : ConnectionOptions) :
    store'.refusal? use options = store.refusal? use options := by
  unfold Store.refusal?
  rw [h.reach, h.server.password]

theorem work {ε α : Type} {Q : α → α → Prop} {work work' : ServerWork ε α}
    (h : store.Within store') (hmeet : ServerWork.Meet Server.Within Q work work')
    (use : ConnectionUse) (options : ConnectionOptions) (fault : StoreError → ε) :
    (store.work use options fault work).2.Within (store'.work use options fault work').2 := by
  have hrefusal := h.refusal? use options
  cases hrefused : store.refusal? use options with
  | some refusal =>
    rw [work_of_refused hrefused, work_of_refused (hrefusal.trans hrefused)]
    exact h
  | none =>
    rw [work_of_connected hrefused, work_of_connected (hrefusal.trans hrefused)]
    have hmet := hmeet _ _ h.server
    generalize work.outcome store.server = outcome at hmet ⊢
    generalize work'.outcome store'.server = outcome' at hmet ⊢
    cases hmet with
    | ok _ hafter => exact ⟨h.reach, hafter⟩
    | error hafter => exact ⟨h.reach, hafter⟩

theorem migrate (h : store.Within store') (m : Manager) :
    (m.migrate store).store.Within (m.migrate store').store :=
  h.work ((Migration.run_meet Server.lockstep_within m.target.database).adapt _) ..

theorem upsert (h : store.Within store') (m : Manager) (email : String) :
    (m.upsert email store).2.Within (m.upsert email store').2 ∧
      ((m.upsert email store).1 = .ok () → (m.upsert email store').1 = .ok ()) := by
  have hrefusal := h.refusal? .pooled m.target.options
  cases hrefused : store.refusal? .pooled m.target.options with
  | some refusal =>
    rw [Manager.upsert, work_of_refused hrefused]
    rw [Manager.upsert, work_of_refused (hrefusal.trans hrefused)]
    exact ⟨h, id⟩
  | none =>
    rw [Manager.upsert, work_of_connected hrefused]
    rw [Manager.upsert, work_of_connected (hrefusal.trans hrefused)]
    have hafter := h.server.upserted (store.server.upserted m.target.database email)
      (store'.server.upserted m.target.database email)
    exact ⟨⟨h.reach, hafter.1⟩, hafter.2⟩

theorem upsert_right (h : store.Within store') (m : Manager) (email : String) :
    store.Within (m.upsert email store').2 := by
  cases hrefused : store'.refusal? .pooled m.target.options with
  | some refusal =>
    rw [Manager.upsert, work_of_refused hrefused]
    exact h
  | none =>
    rw [Manager.upsert, work_of_connected hrefused]
    exact ⟨h.reach, h.server.upserted_right (store'.server.upserted m.target.database email)⟩

end Within

end Store

end WaitingList
