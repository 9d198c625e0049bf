import WaitingList.Proofs.Service.Ledger
import WaitingList.Proofs.Store.Hindrance
import WaitingList.Service.Traffic

namespace WaitingList

namespace Service

variable {service : Service} {store after : Store} {email : String}

/-- A store that takes whatever a service writes: it can be connected to, no failure waits for an
upsert, and the table is there. -/
structure Open (service : Service) (store : Store) : Prop where
  connects : store.refusal? .pooled service.manager.target.options = none
  unstruck : store.server.struck? .upsert = none
  table : (service.table store).isSome

/-- A store that has taken an address from a service and goes on to be open: the address has the
next number in the table. -/
structure Took (service : Service) (store after : Store) (email : String) : Prop where
  stays : service.Open after
  rows : service.table after =
    (service.table store).map fun rows => Row.write rows email (store.server.writes + 1)
  writes : after.server.writes = store.server.writes + 1

/-- An open store takes every address, and stays open. -/
theorem Open.upsert (h : service.Open store) (email : String) :
    ∃ after, service.manager.upsert email store = (.ok (), after) ∧
      service.Took store after email := by
  obtain ⟨rows, hrows⟩ := Option.isSome_iff_exists.mp h.table
  have hok := Manager.upsert_eq_ok email (Manager.not_hindered h.connects h.unstruck hrows)
  rcases hupsert : service.manager.upsert email store with ⟨result, after⟩
  obtain rfl : result = .ok () := by rw [← hok, hupsert]
  obtain ⟨hreach, hwrote⟩ := Manager.upsert_ok hupsert
  obtain ⟨_, _, harmed⟩ := Store.work_ok (ServerWork.upsert_keeps_armed _ email _) hupsert
  obtain ⟨rows', hrows', hafter⟩ := hwrote.rows
  obtain rfl : rows = rows' := Option.some.inj (hrows.symm.trans hrows')
  refine ⟨after, rfl, ⟨?_, ?_, ?_⟩, ?_, hwrote.writes⟩
  · rw [← h.connects]
    simp only [Store.refusal?, hreach, hwrote.password]
  · rw [Server.struck?, harmed]
    exact h.unstruck
  · rw [Service.table, hafter]
    rfl
  · rw [hrows]
    exact hafter

/-- What a store comes to that is asked for an upsert, or for nothing. -/
inductive Served (service : Service) (store : Store) : Store → Option String → Prop where
  | kept : Served service store store none
  | took {after : Store} {email : String} (htook : service.Took store after email) :
      Served service store after (some email)

/-- What becomes of a submission to an open store. -/
def verdict (service : Service) (body : Body) : Subscription :=
  match body.submission service.policy with
  | .error error => ⟨none, some error⟩
  | .ok address => ⟨some address, none⟩

/-- The addresses that are written for a submission to an open store: one, or none. -/
def writes (service : Service) (body : Body) : List String :=
  match body.submission service.policy with
  | .error _ => []
  | .ok address => [address.text]

/-- The stages that a flight can be in, each with the addresses that have been written for it. -/
inductive Reaches (service : Service) (moment : Moment) (request : Request) :
    Stage → List String → Prop where
  | arrived : Reaches service moment request .arrived []
  | read {bytes : List UInt8} (hread : request.body.read = .ok bytes) :
      Reaches service moment request (.read bytes) []
  | checked {address : EmailAddress}
      (haddress : request.body.submission service.policy = .ok address) :
      Reaches service moment request (.checked address) []
  | settled : Reaches service moment request (.settled (service.verdict request.body))
      (service.writes request.body)
  | answered : Reaches service moment request
      (.answered
        ((Passage.ofSubscription moment (service.verdict request.body)).exchange moment request))
      (service.writes request.body)

theorem Reaches.refused {moment : Moment} {request : Request} {error : RequestError}
    (hrefused : request.body.submission service.policy = .error error) :
    service.Reaches moment request (.settled ⟨none, some error⟩) [] := by
  have hsettled : service.Reaches moment request _ _ := .settled
  rwa [verdict, writes, hrefused] at hsettled

theorem Reaches.written {moment : Moment} {request : Request} {address : EmailAddress}
    (haddress : request.body.submission service.policy = .ok address) :
    service.Reaches moment request (.settled ⟨some address, none⟩) [address.text] := by
  have hsettled : service.Reaches moment request _ _ := .settled
  rwa [verdict, writes, haddress] at hsettled

theorem submission_of_read {body : Body} {bytes : List UInt8} (hread : body.read = .ok bytes)
    (policy : EmailPolicy) : body.submission policy = Submission.accept policy bytes := by
  rw [Body.submission, hread]

/-- The layers around a passage that the store takes no part in. -/
theorem layered_ofSubscription (moment : Moment) (request : Request) (s : Subscription)
    (store : Store) :
    Handler.layered moment (fun _ store => (.ofSubscription moment s, store)) request store =
      ((Passage.ofSubscription moment s).exchange moment request, store) :=
  Handler.layered_eq (Passage.id?_ofSubscription moment s)

/-- A flight on an open store goes on to a stage that it can be in, and what it wrote before is
joined by what it asks the store for now. -/
theorem advance_of_reaches {flight : Flight} {written : List String} (hopen : service.Open store)
    (h : service.Reaches flight.moment flight.request flight.stage written) :
    service.Reaches flight.moment flight.request (service.advance flight store).1
        (written ++ flight.upsert?.toList) ∧
      service.Served store (service.advance flight store).2 flight.upsert? := by
  obtain ⟨moment, request, stage⟩ := flight
  change service.Reaches moment request stage written at h
  cases h with
  | arrived =>
    cases hread : request.body.read with
    | error error =>
      have hrefused : request.body.submission service.policy = .error (.body error) := by
        rw [Body.submission, hread]
      simp only [advance, hread]
      exact ⟨.refused hrefused, .kept⟩
    | ok bytes =>
      simp only [advance, hread]
      exact ⟨.read hread, .kept⟩
  | @read bytes hread =>
    have hsubmission := submission_of_read hread service.policy
    cases haccept : Submission.accept service.policy bytes with
    | error error =>
      simp only [advance, haccept]
      exact ⟨.refused (hsubmission.trans haccept), .kept⟩
    | ok address =>
      simp only [advance, haccept]
      exact ⟨.checked (hsubmission.trans haccept), .kept⟩
  | @checked address haddress =>
    -- the one stage that turns to the store
    obtain ⟨after, hupsert, htook⟩ := hopen.upsert address.text
    simp only [advance, hupsert]
    exact ⟨.written haddress, .took htook⟩
  | settled =>
    simp only [advance, layered_ofSubscription]
    exact ⟨(List.append_nil _).symm ▸ .answered, .kept⟩
  | answered => exact ⟨(List.append_nil _).symm ▸ .answered, .kept⟩

variable {base : Nat} {rows : List Row} {written : List String}

/-- An open store that had some rows and has taken writes since, which are numbered on from
`base`. -/
structure Account (service : Service) (base : Nat) (rows : List Row) (written : List String)
    (store : Store) : Prop where
  opened : service.Open store
  writes : store.server.writes = base + written.length
  table : ∃ now, service.table store = some now ∧ Row.TalliesOver rows now base written

theorem Account.served (h : service.Account base rows written store) {email? : Option String}
    (hserved : service.Served store after email?) :
    service.Account base rows (written ++ email?.toList) after := by
  cases hserved with
  | kept => exact (List.append_nil written).symm ▸ h
  | @took _ email htook =>
    obtain ⟨now, hnow, htallies⟩ := h.table
    refine ⟨htook.stays, ?_, _, ?_, htallies.write email⟩
    · rw [htook.writes, h.writes, Option.toList_some, List.length_append, List.length_singleton,
        Nat.add_assoc]
    · rw [htook.rows, hnow, h.writes]
      rfl

end Service

namespace Traffic

variable {service : Service} {sent : List (Moment × Request)} {base : Nat} {rows : List Row}
  {t : Traffic}

/-- The addresses that were written, in order. -/
def written (t : Traffic) : List String := t.upserts.map Prod.snd

/-- The addresses that the flight in a place has written. -/
def writtenBy (t : Traffic) (place : Nat) : List String :=
  (t.upserts.filter (·.1 = place)).map Prod.snd

theorem step_of_none (service : Service) {place : Nat} (hnone : t.flights[place]? = none) :
    t.step service place = t := by
  simp only [step, hnone]

theorem step_of_flight (service : Service) {place : Nat} {flight : Flight}
    (hflight : t.flights[place]? = some flight) :
    t.step service place =
      { flights := t.flights.set place
          { flight with stage := (service.advance flight t.store).1 }
        store := (service.advance flight t.store).2
        upserts := t.upserts ++ (flight.upsert?.map (place, ·)).toList } := by
  simp only [step, hflight]

section Concat

variable {after : Traffic} {place : Nat} {email? : Option String}

theorem written_concat (h : after.upserts = t.upserts ++ (email?.map (place, ·)).toList) :
    after.written = t.written ++ email?.toList := by
  rw [written, h, List.map_append, written]
  cases email? <;> rfl

theorem writtenBy_concat (h : after.upserts = t.upserts ++ (email?.map (place, ·)).toList)
    (other : Nat) :
    after.writtenBy other = t.writtenBy other ++ if place = other then email?.toList else [] := by
  rw [writtenBy, h, List.filter_append, List.map_append, writtenBy]
  cases email? with
  | none => simp
  | some email => by_cases hplace : place = other <;> simp [hplace]

end Concat

/-- Flights under way on an open store: each has come to a stage by itself, and the writes of all
of them add up. -/
structure Underway (service : Service) (sent : List (Moment × Request)) (base : Nat)
    (rows : List Row) (t : Traffic) : Prop where
  account : service.Account base rows t.written t.store
  sent : t.flights.map (fun flight => (flight.moment, flight.request)) = sent
  reached : ∀ place flight, t.flights[place]? = some flight →
    service.Reaches flight.moment flight.request flight.stage (t.writtenBy place)
  placed : ∀ place email, (place, email) ∈ t.upserts → place < t.flights.length

namespace Underway

theorem start (sent : List (Moment × Request)) {store : Store} (hopen : service.Open store)
    (hrows : service.table store = some rows) :
    Underway service sent store.server.writes rows (Traffic.start sent store) where
  account := ⟨hopen, rfl, rows, hrows, .nil rows _⟩
  sent := by simp [Traffic.start, Function.comp_def]
  reached place flight hflight := by
    simp only [Traffic.start, List.getElem?_map, Option.map_eq_some_iff] at hflight
    obtain ⟨r, _, rfl⟩ := hflight
    exact .arrived
  placed place email hmem := by cases hmem

/-- One turn of one flight keeps the account. -/
theorem step (h : Underway service sent base rows t) (place : Nat) :
    Underway service sent base rows (t.step service place) := by
  cases hflight : t.flights[place]? with
  | none => exact (step_of_none service hflight).symm ▸ h
  | some flight =>
    obtain ⟨hreaches, hserved⟩ :=
      Service.advance_of_reaches h.account.opened (h.reached place flight hflight)
    have hlt : place < t.flights.length := (List.getElem?_eq_some_iff.mp hflight).1
    rw [step_of_flight service hflight]
    -- Only the flight whose turn it is changes, so what is said of the others stays as it was.
    refine ⟨?_, ?_, ?_, ?_⟩
    · rw [written_concat rfl]
      exact h.account.served hserved
    · rw [← h.sent, List.map_set]
      refine List.ext_getElem? fun other => ?_
      by_cases hplace : place = other
      · rw [← hplace, List.getElem?_set_self (by simpa using hlt), List.getElem?_map, hflight]
        rfl
      · rw [List.getElem?_set_ne hplace]
    · intro other next hnext
      rw [writtenBy_concat rfl]
      by_cases hplace : place = other
      · rw [← hplace, List.getElem?_set_self hlt, Option.some.injEq] at hnext
        rw [← hnext, ← hplace, if_pos rfl]
        exact hreaches
      · rw [List.getElem?_set_ne hplace] at hnext
        rw [if_neg hplace, List.append_nil]
        exact h.reached other next hnext
    · intro other email hmem
      rw [List.length_set]
      rcases List.mem_append.mp hmem with hbefore | hnow
      · exact h.placed other email hbefore
      · obtain ⟨_, _, hpair⟩ : ∃ e, flight.upsert? = some e ∧ (place, e) = (other, email) := by
          simpa using hnow
        exact (Prod.mk.inj hpair).1 ▸ hlt

/-- Whatever turns the flights take, the account is kept. -/
theorem run (h : Underway service sent base rows t) (schedule : List Nat) :
    Underway service sent base rows (t.run service schedule) := by
  induction schedule generalizing t with
  | nil => exact h
  | cons place rest ih => exact ih (h.step place)

end Underway

end Traffic

section Turns

/-- How many stages are still ahead at most. -/
def Stage.ahead : Stage → Nat
  | .arrived => 4
  | .read _ => 3
  | .checked _ => 2
  | .settled _ => 1
  | .answered _ => 0

theorem Stage.answered_of_ahead {stage : Stage} (h : stage.ahead = 0) :
    ∃ exchange, stage = .answered exchange := by
  cases stage with
  | answered exchange => exact ⟨exchange, rfl⟩
  | _ => cases h

variable {service : Service} {t : Traffic} {place : Nat} {flight : Flight}

/-- No stage waits for another flight. -/
theorem Service.ahead_advance (service : Service) (flight : Flight) (store : Store) :
    (service.advance flight store).1.ahead ≤ flight.stage.ahead - 1 := by
  obtain ⟨moment, request, stage⟩ := flight
  cases stage with
  | arrived | read bytes | checked address =>
    simp only [advance]
    split <;> simp [Stage.ahead]
  | settled subscription | answered exchange => simp [advance, Stage.ahead]

/-- A turn of another flight leaves a flight where it is, and its own turn takes it on. -/
theorem Traffic.ahead_step (service : Service) (turn : Nat)
    (hflight : t.flights[place]? = some flight) :
    ∃ later, (t.step service turn).flights[place]? = some later ∧
      later.stage.ahead ≤ flight.stage.ahead - if turn = place then 1 else 0 := by
  cases hturn : t.flights[turn]? with
  | none =>
    have hne : turn ≠ place := fun heq => by
      rw [heq, hflight] at hturn
      cases hturn
    rw [step_of_none service hturn]
    exact ⟨flight, hflight, by simp [hne]⟩
  | some next =>
    rw [step_of_flight service hturn]
    by_cases heq : turn = place
    · subst heq
      obtain rfl := Option.some.inj (hturn.symm.trans hflight)
      have hlt : turn < t.flights.length := (List.getElem?_eq_some_iff.mp hturn).1
      rw [List.getElem?_set_self hlt, if_pos rfl]
      exact ⟨_, rfl, service.ahead_advance next t.store⟩
    · rw [List.getElem?_set_ne heq]
      exact ⟨flight, hflight, by simp [heq]⟩

theorem Traffic.ahead_run (service : Service) (schedule : List Nat)
    (hflight : t.flights[place]? = some flight) :
    ∃ later, (t.run service schedule).flights[place]? = some later ∧
      later.stage.ahead ≤ flight.stage.ahead - schedule.count place := by
  induction schedule generalizing t flight with
  | nil => exact ⟨flight, hflight, by simp⟩
  | cons turn rest ih =>
    obtain ⟨next, hnext, hstep⟩ := ahead_step service turn hflight
    obtain ⟨later, hlater, hrest⟩ := ih hnext
    refine ⟨later, hlater, ?_⟩
    rw [List.count_cons]
    simp only [beq_iff_eq]
    omega

theorem Traffic.length_run (schedule : List Nat) :
    (t.run service schedule).flights.length = t.flights.length := by
  induction schedule generalizing t with
  | nil => rfl
  | cons turn rest ih =>
    refine ih.trans ?_
    cases hturn : t.flights[turn]? with
    | none => rw [step_of_none service hturn]
    | some flight => rw [step_of_flight service hturn, List.length_set]

/-- All flights are answered. -/
def Traffic.Landed (t : Traffic) : Prop :=
  ∀ flight ∈ t.flights, ∃ exchange, flight.stage = .answered exchange

/-- Flights have landed once each has had four turns, whatever the turns between. -/
theorem Traffic.landed_of_turns {sent : List (Moment × Request)} {store : Store}
    {schedule : List Nat} (hturns : ∀ place < sent.length, 4 ≤ schedule.count place) :
    ((start sent store).run service schedule).Landed := by
  intro flight hmem
  obtain ⟨place, hplace⟩ := List.mem_iff_getElem?.mp hmem
  have hlt : place < sent.length := by
    have hbound := (List.getElem?_eq_some_iff.mp hplace).1
    rwa [length_run, start, List.length_map] at hbound
  have hfirst : (start sent store).flights[place]? =
      some ⟨sent[place].1, sent[place].2, .arrived⟩ := by
    simp [start, hlt]
  obtain ⟨later, hlater, hahead⟩ := ahead_run service schedule hfirst
  obtain rfl : later = flight := Option.some.inj (hlater.symm.trans hplace)
  have henough := hturns place hlt
  refine Stage.answered_of_ahead ?_
  change later.stage.ahead ≤ 4 - schedule.count place at hahead
  omega

end Turns

end WaitingList
