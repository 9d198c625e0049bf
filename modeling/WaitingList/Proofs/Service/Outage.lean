import WaitingList.Proofs.Connection.Mode
import WaitingList.Proofs.Service.Discretion
import WaitingList.Proofs.Service.Startup
import WaitingList.Proofs.Service.Strictness

namespace WaitingList

namespace ConnectionTarget

open SslMode

/-- The last mode that options set is the one that they ask for. -/
theorem sslMode?_of_last {options earlier later : List (String × String)} {word : String}
    {mode : SslMode} (hoptions : options = earlier ++ ("sslmode", word) :: later)
    (hlast : ∀ option ∈ later, option.1 ≠ "sslmode") (hmode : sslMode? options = some mode) :
    SslMode.ofOption? word = some mode := by
  have hwords : modeWords options = modeWords earlier ++ [word] := by
    rw [hoptions, modeWords, List.filterMap_append, List.filterMap_cons]
    exact congrArg (modeWords earlier ++ word :: ·) (modeWords_eq_nil hlast)
  have hasked := (sslMode?_eq_some_iff.mp hmode).2
  rw [hwords, List.getLast?_concat] at hasked
  exact SslMode.ofOption?_eq_some_iff.mpr hasked

theorem demandsTls_of_ofOption? {word : String} {mode : SslMode}
    (hword : word ∈ ["require", "verify-ca", "verify-full"])
    (hmode : SslMode.ofOption? word = some mode) : mode.demandsTls = true := by
  simp only [List.mem_cons, List.not_mem_nil, or_false] at hword
  obtain rfl | rfl | rfl := hword <;> revert hmode <;> cases mode <;> decide

/-- A URL that demands encryption is never read as a target that does not. -/
theorem demandsTls_of_ofUrl? {text : String} {parts : ConnectionUrl} {target : ConnectionTarget}
    {earlier later : List (String × String)} {word : String}
    (hparts : ConnectionUrl.ofText? text = some parts)
    (hoptions : parts.options = earlier ++ ("sslmode", word) :: later)
    (hlast : ∀ option ∈ later, option.1 ≠ "sslmode")
    (hword : word ∈ ["require", "verify-ca", "verify-full"])
    (htarget : ofUrl? text = some target) : target.sslMode.demandsTls = true := by
  rw [ofUrl?, hparts, Option.bind_eq_bind, Option.bind_some] at htarget
  exact demandsTls_of_ofOption? hword
    (sslMode?_of_last hoptions hlast (sslMode?_of_ofUrlParts? htarget))

end ConnectionTarget

/-- The reasons for which a target's store cannot be connected to: nothing listens there, it asks
for another password than the target's, or the target demands encryption, which no server that the
service finds is capable of. The last one is also told from the URL that the target was read
from. -/
inductive Unreached (store : Store) (target : ConnectionTarget) : Prop where
  | silent (hreach : store.reach ≠ .server)
  | locked {password : String} (hpassword : store.server.password = some password)
      (hwrong : password ≠ target.password)
  | unencrypted (hmode : target.sslMode ∈ [.require, .verifyCa, .verifyFull])
  | demanded {text word : String} {parts : ConnectionUrl} {earlier later : List (String × String)}
      (hparts : ConnectionUrl.ofText? text = some parts)
      (hoptions : parts.options = earlier ++ ("sslmode", word) :: later)
      (hlast : ∀ option ∈ later, option.1 ≠ "sslmode")
      (hword : word ∈ ["require", "verify-ca", "verify-full"])
      (htarget : ConnectionTarget.ofUrl? text = some target)

theorem Store.refusal?_of_demandsTls {store : Store} {target : ConnectionTarget}
    (hmode : target.sslMode.demandsTls = true) :
    ∃ refusal, store.refusal? .pooled target.options = some refusal := by
  cases hreach : store.reach with
  | nowhere => exact ⟨.unreachable, by simp only [refusal?, hreach]⟩
  | silence => exact ⟨.poolTimedOut, by simp only [refusal?, hreach]⟩
  | server =>
    have hdemands : target.options.sslMode.demandsTls = true := hmode
    exact ⟨.noTls, by simp only [refusal?, hreach, hdemands, if_true]⟩

namespace Unreached

variable {store : Store} {target : ConnectionTarget}

/-- For each of the reasons every connection of a pool is refused. -/
theorem refusal? (h : Unreached store target) :
    ∃ refusal, store.refusal? .pooled target.options = some refusal := by
  cases h with
  | silent hreach =>
    cases hwhere : store.reach with
    | server => exact absurd hwhere hreach
    | nowhere => exact ⟨.unreachable, by simp only [Store.refusal?, hwhere]⟩
    | silence => exact ⟨.poolTimedOut, by simp only [Store.refusal?, hwhere]⟩
  | @locked password hpassword hwrong =>
    by_contra hnone
    have hconnects : store.refusal? .pooled target.options = none := by
      cases hrefusal : store.refusal? .pooled target.options with
      | none => rfl
      | some refusal => exact absurd ⟨refusal, hrefusal⟩ hnone
    have hdiffers : store.server.password.any (· != target.options.password) = true := by
      rw [hpassword]
      exact bne_iff_ne.mpr hwrong
    unfold Store.refusal? at hconnects
    simp only [hdiffers, if_true] at hconnects
    split at hconnects <;> try cases hconnects
    split at hconnects <;> cases hconnects
  | unencrypted hmode =>
    refine Store.refusal?_of_demandsTls ?_
    simp only [List.mem_cons, List.not_mem_nil, or_false] at hmode
    obtain hmode | hmode | hmode := hmode <;> rw [hmode] <;> rfl
  | demanded hparts hoptions hlast hword htarget =>
    exact Store.refusal?_of_demandsTls
      (ConnectionTarget.demandsTls_of_ofUrl? hparts hoptions hlast hword htarget)

end Unreached

namespace Service

variable {service : Service} {p : PooledStore}

section Barred

variable (h : p.Barred service.manager.target.options)
include h

theorem upsertPooled_of_barred (email : String) :
    ∃ refusal, service.manager.upsertPooled email p = (.error refusal, p) := h.work _ _

theorem migratePooled_of_barred :
    ∃ cause, service.manager.migratePooled p = (.error (.migration cause), p) := by
  obtain ⟨refusal, hwork⟩ := h.work
    (ExceptT.adapt .migration (Migration.run service.manager.target.database))
    (fun error => ManagerError.migration (.execute error))
  exact ⟨_, hwork⟩

/-- No request changes anything, and a valid submission is told that the service failed. -/
theorem answerPooled_of_barred (moment : Moment) (request : Request) :
    (service.answerPooled moment request p).2 = p ∧
      ∀ address, request.IsSubmission → request.body.submission service.policy = .ok address →
        (service.answerPooled moment request p).1.response =
          ⟨500, [.ofText "content-type" "application/json", .ofText "content-length" "25",
            ⟨"x-request-id", request.responseId moment⟩],
            "\x7b\"error\":\"Service error\"\x7d"⟩ := by
  by_cases hsubmission : request.IsSubmission
  · rw [answerPooled_of_isSubmission service moment p hsubmission]
    cases haddress : request.body.submission service.policy with
    | error error =>
      refine ⟨by simp only [subscribePooled, haddress], fun address _ hok => by cases hok⟩
    | ok address =>
      obtain ⟨refusal, hupsert⟩ := upsertPooled_of_barred h address.text
      have hsubscribe : service.subscribePooled request.body p =
          (⟨some address, some (.store refusal)⟩, p) := by
        simp only [subscribePooled, haddress, hupsert]
      rw [hsubscribe]
      refine ⟨rfl, fun _ _ _ => ?_⟩
      rw [← response_of_unwritten refusal (request.responseId moment)]
      rfl
  · rw [answerPooled_of_not_isSubmission service moment p hsubmission]
    exact ⟨rfl, fun _ hsubmitted => absurd hsubmitted hsubmission⟩

/-- A step that arms a failure is the only one that does anything, and it leaves the pool without a
connection. -/
theorem stepPooled_of_barred (s : Step) :
    (service.stepPooled p s).2.Barred service.manager.target.options ∧
      (service.stepPooled p s).2.store.server.databases = p.store.server.databases := by
  cases s with
  | request moment request =>
    have hafter : (service.stepPooled p (.request moment request)).2 = p :=
      (answerPooled_of_barred h moment request).1
    rw [hafter]
    exact ⟨h, rfl⟩
  | migrate =>
    obtain ⟨cause, hmigrate⟩ := migratePooled_of_barred h
    have hafter : (service.stepPooled p .migrate).2 = p := congrArg Prod.snd hmigrate
    rw [hafter]
    exact ⟨h, rfl⟩
  | fail failure =>
    refine ⟨⟨h.idle, ?_⟩, rfl⟩
    obtain ⟨refusal, hrefusal⟩ := h.refused
    exact ⟨refusal, hrefusal⟩

theorem afterPooled_of_barred (steps : List Step) :
    (service.afterPooled p steps).Barred service.manager.target.options ∧
      (service.afterPooled p steps).store.server.databases = p.store.server.databases := by
  induction steps generalizing p with
  | nil => exact ⟨h, rfl⟩
  | cons s rest ih =>
    obtain ⟨hstep, hdatabases⟩ := stepPooled_of_barred h s
    obtain ⟨hlast, hsame⟩ := ih hstep
    exact ⟨hlast, hsame.trans hdatabases⟩

end Barred

/-- A request that submits no address that passes the checks is answered alike over all pools and
stores. -/
theorem answerPooled_eq_of_no_address {moment : Moment} {request : Request}
    (hnone : request.IsSubmission → ∀ address, request.body.submission service.policy ≠ .ok address)
    (p p' : PooledStore) :
    (service.answerPooled moment request p).1 = (service.answerPooled moment request p').1 := by
  by_cases hsubmission : request.IsSubmission
  · rw [answerPooled_of_isSubmission service moment p hsubmission,
      answerPooled_of_isSubmission service moment p' hsubmission]
    cases haddress : request.body.submission service.policy with
    | error error => simp only [subscribePooled, haddress]
    | ok address => exact absurd haddress (hnone hsubmission address)
  · rw [answerPooled_of_not_isSubmission service moment p hsubmission,
      answerPooled_of_not_isSubmission service moment p' hsubmission]
    exact answer_eq_of_not_isSubmission hsubmission service service moment p'.store p.store

/-- A service that cannot connect to its store starts unless it is to migrate first. -/
theorem startPooled_of_refused {settings : Settings} {machine : Machine} {store : Store}
    (hrefused : ∃ refusal, store.refusal? .pooled settings.target.options = some refusal) :
    (startPooled settings machine store).store = store ∧
      if settings.pool.migrateOnStart then
        ∃ cause, (startPooled settings machine store).result = .error (.store (.migration cause))
      else machine.canListen settings.network.host settings.network.port = true →
        (startPooled settings machine store).result = .ok (ofSettings settings) := by
  have hbarred : (openPool settings store).Barred (ofSettings settings).manager.target.options :=
    ⟨rfl, hrefused⟩
  obtain ⟨cause, hmigrate⟩ := migratePooled_of_barred hbarred
  have hfirst : migrateFirst settings store =
      (.error (.migration cause), openPool settings store) := hmigrate
  split
  next hmigrates =>
    rw [startPooled_of_error hmigrates (congrArg Prod.fst hfirst)]
    exact ⟨congrArg (·.2.store) hfirst, cause, rfl⟩
  next hmigrates =>
    have hmigrates : settings.pool.migrateOnStart = false := by simpa using hmigrates
    rw [startPooled_of_no_migration hmigrates]
    exact ⟨store_listen .., fun hlistens => (result_listen ..).trans (if_pos hlistens)⟩

/-- A store that cannot be connected to is never written, and does not take the service down. For
every reason of the table and at every point of every run, the databases are what they were, a valid
submission is told that the service failed, any other request is answered as over a store in order,
a migration fails as one, and a service starts on it unless it is to migrate first. -/
theorem outage_contained (settings : Settings) (machine : Machine) (store : Store)
    (hunreached : Unreached store settings.target) (steps : List Step) :
    let service := ofSettings settings
    let reached := service.afterPooled ⟨.ofSize settings.pool.maxConnections, store⟩ steps
    reached.store.server.databases = store.server.databases ∧
    (∀ (moment : Moment) (request : Request) (address : EmailAddress),
      request.IsSubmission → request.body.submission settings.emailPolicy = .ok address →
      (service.answerPooled moment request reached).1.response =
        ⟨500, [.ofText "content-type" "application/json", .ofText "content-length" "25",
          ⟨"x-request-id", request.responseId moment⟩],
          "\x7b\"error\":\"Service error\"\x7d"⟩) ∧
    (∀ (moment : Moment) (request : Request),
      (request.IsSubmission → ∀ address,
        request.body.submission settings.emailPolicy ≠ .ok address) →
      ∀ healthy : PooledStore, (service.answerPooled moment request reached).1 =
        (service.answerPooled moment request healthy).1) ∧
    (∃ cause, (service.manager.migratePooled reached).1 = .error (.migration cause)) ∧
    (startPooled settings machine reached.store).store = reached.store ∧
    if settings.pool.migrateOnStart then
      ∃ cause, (startPooled settings machine reached.store).result =
        .error (.store (.migration cause))
    else machine.canListen settings.network.host settings.network.port = true →
      (startPooled settings machine reached.store).result = .ok service := by
  intro service reached
  have hbarred : PooledStore.Barred ⟨.ofSize settings.pool.maxConnections, store⟩
      service.manager.target.options := ⟨rfl, hunreached.refusal?⟩
  obtain ⟨hreached, hdatabases⟩ := afterPooled_of_barred hbarred steps
  obtain ⟨cause, hmigrate⟩ := migratePooled_of_barred hreached
  refine ⟨hdatabases, ?_, ?_, ⟨cause, congrArg Prod.fst hmigrate⟩,
    startPooled_of_refused hreached.refused⟩
  · intro moment request address hsubmission haddress
    exact (answerPooled_of_barred hreached moment request).2 address hsubmission haddress
  · intro moment request hnone healthy
    exact answerPooled_eq_of_no_address hnone reached healthy

/-- A URL asks for a checked certificate. The server has the table and asks for no password, and
still the row that is submitted does not come to stand there. -/
theorem outage_contained_verified_certificate :
    let target : ConnectionTarget := ⟨"u", "p", 5432, "h", "d", .verifyCa⟩
    let settings : Settings :=
      ⟨⟨⟨127, 0, 0, 1⟩, 8080⟩, target, ⟨5, 3000, false⟩, .minimal⟩
    let moment : Moment := ⟨"", "", "", "i"⟩
    let submission : Request :=
      ⟨.post, ⟨none, none, "/api/subscribe", none⟩, [], ⟨"[\"a@b\"]".toUTF8.toList, none⟩⟩
    let store : Store := ⟨.server, ⟨[("d", ⟨some [], []⟩)], 0, none, none⟩⟩
    let service := ofSettings settings
    let reached := service.afterPooled ⟨.ofSize 5, store⟩ [.migrate, .request moment submission]
    ConnectionTarget.ofUrl? "postgres://u:p@h/d?sslmode=verify-ca" = some target ∧
      reached.store.server.databases = [("d", ⟨some [], []⟩)] ∧
      (service.answerPooled moment submission reached).1.response.status = 500 ∧
      (startPooled settings ⟨fun _ _ => true⟩ reached.store).result = .ok service := by
  intro target settings moment submission store service reached
  have htarget : ConnectionTarget.ofUrl? "postgres://u:p@h/d?sslmode=verify-ca" = some target := by
    decide +kernel
  have hparts : ConnectionUrl.ofText? "postgres://u:p@h/d?sslmode=verify-ca" =
      some ⟨"postgres".toList, ['u'], ['p'], ['h'], none, [['d']], "sslmode=verify-ca".toList⟩ := by
    decide +kernel
  have hunreached : Unreached store settings.target :=
    .demanded hparts (show _ = [] ++ ("sslmode", "verify-ca") :: [] by decide +kernel) (by simp)
      (by decide) htarget
  have haddress : submission.body.submission settings.emailPolicy = .ok ⟨"a@b"⟩ := by
    decide +kernel
  obtain ⟨hdatabases, hfails, _, _, _, hstarts⟩ := outage_contained settings ⟨fun _ _ => true⟩ store
    hunreached [.migrate, .request moment submission]
  refine ⟨htarget, hdatabases, ?_, hstarts rfl⟩
  rw [hfails moment submission ⟨"a@b"⟩ ⟨rfl, rfl⟩ haddress]

end Service

end WaitingList
