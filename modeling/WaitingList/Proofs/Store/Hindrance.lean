import WaitingList.Proofs.Store.Manager

namespace WaitingList

namespace Manager

/-- The reasons for which a manager does not write an address, each with what is heard of it. A
reason only counts if none before it applies. -/
inductive Hindered (m : Manager) (store : Store) : StoreError → Prop where
  | unreachable (hreach : store.reach = .nowhere) : Hindered m store .unreachable
  | timedOut (hreach : store.reach = .silence) : Hindered m store .poolTimedOut
  | unencrypted (hreach : store.reach = .server) (hmode : m.target.sslMode.demandsTls = true) :
      Hindered m store .noTls
  | unauthorised {password : String} (hreach : store.reach = .server)
      (hmode : m.target.sslMode.demandsTls = false)
      (hpassword : store.server.password = some password)
      (hwrong : password ≠ m.target.password) :
      Hindered m store
        (.database s!"password authentication failed for user \"{m.target.username}\"")
  | struck {failure : Failure} (hconnects : store.refusal? .pooled m.target.options = none)
      (hstruck : store.server.struck? .upsert = some failure) :
      Hindered m store (.database failure.text)
  | noTable (hconnects : store.refusal? .pooled m.target.options = none)
      (hunstruck : store.server.struck? .upsert = none)
      (htable : (store.server.database m.target.database).rows = none) :
      Hindered m store (.database "relation \"subscribers\" does not exist")

variable {m : Manager} {store : Store} {error : StoreError}

/-- A connection to a server that answers is refused for want of encryption, or else for the wrong
password. -/
theorem refusal?_of_server (hreach : store.reach = .server) :
    store.refusal? .pooled m.target.options =
      if m.target.sslMode.demandsTls then some .noTls
      else if store.server.password.any (· != m.target.password) then
        some (.database s!"password authentication failed for user \"{m.target.username}\"")
      else none := by
  simp only [Store.refusal?, hreach]
  rfl

/-- The reasons before a connection are those for which it is refused. -/
theorem hindered_of_refusal (hrefusal : store.refusal? .pooled m.target.options = some error) :
    m.Hindered store error := by
  cases hreach : store.reach with
  | nowhere =>
    simp only [Store.refusal?, hreach, Option.some.injEq] at hrefusal
    exact hrefusal ▸ .unreachable hreach
  | silence =>
    simp only [Store.refusal?, hreach, Option.some.injEq] at hrefusal
    exact hrefusal ▸ .timedOut hreach
  | server =>
    rw [refusal?_of_server hreach] at hrefusal
    split at hrefusal
    next hmode => exact Option.some.inj hrefusal ▸ .unencrypted hreach hmode
    next hmode =>
      split at hrefusal
      next hwrong =>
        cases hpassword : store.server.password with
        | none => simp [hpassword] at hwrong
        | some password =>
          have hne : password ≠ m.target.password := by simpa [hpassword] using hwrong
          have hclear : m.target.sslMode.demandsTls = false := by simpa using hmode
          exact Option.some.inj hrefusal ▸ .unauthorised hreach hclear hpassword hne
      next => cases hrefusal

theorem upsert_of_refusal {email : String}
    (hrefusal : store.refusal? .pooled m.target.options = some error) :
    (m.upsert email store).1 = .error error := by
  rw [upsert, Store.work_of_refused hrefusal]
  rfl

theorem upsert_of_connected {email : String}
    (hconnects : store.refusal? .pooled m.target.options = none) :
    (m.upsert email store).1 =
      ((ServerWork.upsert m.target.database email).outcome store.server).1 := by
  rw [upsert, Store.work_of_connected hconnects]

/-- An address is not written exactly for a reason of the table, and that reason is heard. -/
theorem upsert_eq_error_iff (email : String) :
    (m.upsert email store).1 = .error error ↔ m.Hindered store error := by
  constructor
  · intro herror
    cases hrefusal : store.refusal? .pooled m.target.options with
    | some refusal =>
      rw [upsert_of_refusal hrefusal, Except.error.injEq] at herror
      exact herror ▸ hindered_of_refusal hrefusal
    | none =>
      rw [upsert_of_connected hrefusal, ServerWork.outcome_upsert] at herror
      split at herror
      next failure _ hstruck => exact Except.error.inj herror ▸ .struck hrefusal hstruck
      next hunstruck htable => exact Except.error.inj herror ▸ .noTable hrefusal hunstruck htable
      next => cases herror
  · intro hhindered
    cases hhindered with
    | unreachable hreach => exact upsert_of_refusal (by simp only [Store.refusal?, hreach])
    | timedOut hreach => exact upsert_of_refusal (by simp only [Store.refusal?, hreach])
    | unencrypted hreach hmode =>
      exact upsert_of_refusal (by rw [refusal?_of_server hreach, if_pos hmode])
    | unauthorised hreach hmode hpassword hwrong =>
      apply upsert_of_refusal
      simp [refusal?_of_server hreach, hmode, hpassword, hwrong]
    | struck hconnects hstruck =>
      rw [upsert_of_connected hconnects, ServerWork.outcome_upsert, hstruck]
    | noTable hconnects hunstruck htable =>
      rw [upsert_of_connected hconnects, ServerWork.outcome_upsert, hunstruck, htable]

/-- Where nothing hinders it, an address is written. -/
theorem upsert_eq_ok (email : String) (hfree : ∀ error, ¬ m.Hindered store error) :
    (m.upsert email store).1 = .ok () := by
  cases hresult : (m.upsert email store).1 with
  | ok done => rfl
  | error error => exact absurd ((upsert_eq_error_iff email).mp hresult) (hfree error)

/-- Nothing hinders a write over a connection into a table for which no failure waits. -/
theorem not_hindered {rows : List Row}
    (hconnects : store.refusal? .pooled m.target.options = none)
    (hunstruck : store.server.struck? .upsert = none)
    (htable : (store.server.database m.target.database).rows = some rows) (error : StoreError) :
    ¬ m.Hindered store error := by
  intro hhindered
  have herror := (upsert_eq_error_iff "").mpr hhindered
  rw [upsert_of_connected hconnects, ServerWork.outcome_upsert, hunstruck, htable] at herror
  cases herror

end Manager

end WaitingList
