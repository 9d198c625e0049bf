import WaitingList.Proofs.Service.Traffic

namespace WaitingList

namespace Traffic

variable {service : Service} {sent : List (Moment × Request)} {base : Nat} {rows : List Row}
  {t : Traffic}

theorem mem_written_iff {email : String} :
    email ∈ t.written ↔ ∃ place, email ∈ t.writtenBy place := by
  simp [written, writtenBy]

/-- A flight that has landed has the answer to what its submission comes to, and has written what
goes with it. -/
theorem Underway.landed (h : Underway service sent base rows t) (hlanded : t.Landed) {place : Nat}
    {moment : Moment} {request : Request} (hsent : sent[place]? = some (moment, request)) :
    t.flights[place]? = some ⟨moment, request, .answered
        ((Passage.ofSubscription moment (service.verdict request.body)).exchange moment request)⟩ ∧
      t.writtenBy place = service.writes request.body := by
  rw [← h.sent, List.getElem?_map, Option.map_eq_some_iff] at hsent
  obtain ⟨⟨moment', request', stage⟩, hflight, hsame⟩ := hsent
  obtain ⟨rfl, rfl⟩ := Prod.mk.inj hsame
  obtain ⟨exchange, rfl⟩ := hlanded _ (List.mem_of_getElem? hflight)
  have hreaches := h.reached place _ hflight
  change service.Reaches moment' request' (.answered exchange) (t.writtenBy place) at hreaches
  generalize t.writtenBy place = written at hreaches ⊢
  cases hreaches with
  | answered => exact ⟨hflight, rfl⟩

/-- The addresses that landed flights have written are those that their bodies submit. -/
theorem Underway.mem_written_iff (h : Underway service sent base rows t) (hlanded : t.Landed)
    {email : String} : email ∈ t.written ↔ ∃ r ∈ sent, email ∈ service.writes r.2.body := by
  rw [Traffic.mem_written_iff]
  constructor
  · rintro ⟨place, hmem⟩
    have hlt : place < sent.length := by
      rw [← h.sent, List.length_map]
      exact h.placed place email (by simpa [writtenBy] using hmem)
    rw [(h.landed hlanded (List.getElem?_eq_getElem hlt)).2] at hmem
    exact ⟨sent[place], List.getElem_mem hlt, hmem⟩
  · rintro ⟨r, hr, hmem⟩
    obtain ⟨place, hplace⟩ := List.mem_iff_getElem?.mp hr
    exact ⟨place, (h.landed hlanded hplace).2 ▸ hmem⟩

end Traffic

namespace Service

variable {service : Service} {store : Store} {moment : Moment} {request : Request}

/-- A submission to an open store is answered with what it comes to. -/
theorem answer_of_open (hopen : service.Open store) (hsubmission : request.IsSubmission) :
    (service.answer moment request store).1 =
      (Passage.ofSubscription moment (service.verdict request.body)).exchange moment request := by
  rw [answer_of_isSubmission service moment store hsubmission, verdict]
  cases hbody : request.body.submission service.policy with
  | error error => rw [subscribe_of_refused hbody]
  | ok address =>
    obtain ⟨after, hupsert, _⟩ := hopen.upsert address.text
    rw [subscribe_of_written hbody hupsert]

/-- A flight and the store after one turn of it. -/
def turn (service : Service) (p : Flight × Store) : Flight × Store :=
  ({ p.1 with stage := (service.advance p.1 p.2).1 }, (service.advance p.1 p.2).2)

theorem run_replicate (service : Service) {t : Traffic} {place : Nat} {flight : Flight} (n : Nat)
    (hflight : t.flights[place]? = some flight) :
    (t.run service (List.replicate n place)).flights =
        t.flights.set place (service.turn^[n] (flight, t.store)).1 ∧
      (t.run service (List.replicate n place)).store =
        (service.turn^[n] (flight, t.store)).2 := by
  induction n generalizing t flight with
  | zero =>
    obtain ⟨hlt, rfl⟩ := List.getElem?_eq_some_iff.mp hflight
    exact ⟨(List.set_getElem_self hlt).symm, rfl⟩
  | succ n ih =>
    have hlt : place < t.flights.length := (List.getElem?_eq_some_iff.mp hflight).1
    have hstep := Traffic.step_of_flight service hflight
    have hnext : (t.step service place).flights[place]? =
        some (service.turn (flight, t.store)).1 := by
      rw [hstep, List.getElem?_set_self hlt]
      rfl
    have hset : (t.step service place).flights =
        t.flights.set place (service.turn (flight, t.store)).1 := by
      rw [hstep]
      rfl
    have hthere : (t.step service place).store = (service.turn (flight, t.store)).2 := by
      rw [hstep]
      rfl
    obtain ⟨hflights, hstore⟩ := ih hnext
    rw [hset, List.set_set, hthere] at hflights
    rw [hthere] at hstore
    exact ⟨hflights, hstore⟩

/-- Four turns of a flight, with no others between, are one answer. -/
theorem turns_eq_answer (service : Service) (moment : Moment) (store : Store)
    (hsubmission : request.IsSubmission) :
    service.turn^[4] (⟨moment, request, .arrived⟩, store) =
      (⟨moment, request, .answered (service.answer moment request store).1⟩,
        (service.answer moment request store).2) := by
  rw [answer_of_isSubmission service moment store hsubmission, subscribe, Body.submission]
  cases hread : request.body.read with
  | error error => simp [turn, advance, hread, layered_ofSubscription]
  | ok bytes =>
    cases haccept : Submission.accept service.policy bytes with
    | error error => simp [turn, advance, hread, haccept, layered_ofSubscription]
    | ok address =>
      rcases hupsert : service.manager.upsert address.text store with ⟨error | done, after⟩ <;>
        simp [turn, advance, hread, haccept, hupsert, layered_ofSubscription]

/-- A flight that takes its turns one after the other does what a request of a run does, whatever
the store. -/
theorem run_alone {t : Traffic} {place : Nat} (hsubmission : request.IsSubmission)
    (hflight : t.flights[place]? = some ⟨moment, request, .arrived⟩) :
    let after := t.run service (List.replicate 4 place)
    after.flights = t.flights.set place
        ⟨moment, request, .answered (service.answer moment request t.store).1⟩ ∧
      after.store = (service.answer moment request t.store).2 := by
  obtain ⟨hflights, hstore⟩ := run_replicate service 4 hflight
  rw [turns_eq_answer service moment t.store hsubmission] at hflights hstore
  exact ⟨hflights, hstore⟩

/-- Submissions whose handlers go on by turns, on a store that takes what they write. Whatever the
order of the turns, once all are answered each has the answer that it would have had alone: success
if its body passes the checks, after one upsert of its address, and else a refusal, after none. The
table holds, beside the rows of other addresses from before, one row for each address that was
accepted, with the number of its last upsert in this order. -/
theorem interleavings_agree (service : Service) (store : Store) (rows : List Row)
    (hopen : service.Open store) (hrows : service.table store = some rows)
    (sent : List (Moment × Request)) (hsent : ∀ r ∈ sent, r.2.IsSubmission) (schedule : List Nat)
    (hlanded : ((Traffic.start sent store).run service schedule).Landed) :
    let final := (Traffic.start sent store).run service schedule
    (∀ place moment request, sent[place]? = some (moment, request) →
      let exchange := (service.answer moment request store).1
      final.flights[place]? = some ⟨moment, request, .answered exchange⟩ ∧
        match request.body.submission service.policy with
        | .ok address => exchange.response.status = 200 ∧ final.writtenBy place = [address.text]
        | .error _ => exchange.response.status ≠ 200 ∧ final.writtenBy place = []) ∧
    (∀ email, email ∈ final.written ↔
      ∃ r ∈ sent, r.2.body.submission service.policy = .ok ⟨email⟩) ∧
    final.store.server.writes = store.server.writes + final.written.length ∧
    ∃ now, service.table final.store = some now ∧
      Row.TalliesOver rows now store.server.writes final.written := by
  intro final
  have hunderway := (Traffic.Underway.start sent hopen hrows).run schedule
  refine ⟨?_, ?_, hunderway.account.writes, hunderway.account.table⟩
  · intro place moment request hplace exchange
    obtain ⟨hflight, hwritten⟩ := hunderway.landed hlanded hplace
    have hexchange : exchange = _ := answer_of_open hopen (hsent _ (List.mem_of_getElem? hplace))
    refine ⟨hexchange ▸ hflight, ?_⟩
    have hstatus :
        exchange.response.status = 200 ↔ (service.verdict request.body).error = none := by
      rw [hexchange, Passage.exchange, Passage.told_ofSubscription, Response.status_withRequestId,
        Subscription.status_eq_ok_iff]
    rw [verdict] at hstatus
    rw [writes] at hwritten
    cases hbody : request.body.submission service.policy with
    | error error => simpa [hbody, hstatus] using hwritten
    | ok address => simpa [hbody, hstatus] using hwritten
  · intro email
    rw [hunderway.mem_written_iff hlanded]
    refine exists_congr fun r => and_congr_right fun _ => ?_
    rw [writes]
    cases r.2.body.submission service.policy with
    | error error => simp
    | ok address =>
      obtain ⟨text⟩ := address
      simp [eq_comm]

/-- Three submissions of which the first two give one address. The second arrives at the store
first and is the one whose write is replaced; the third is refused on the way. -/
theorem interleavings_agree_overtaken :
    let service : Service :=
      ⟨⟨⟨"postgres", "", 5432, "localhost", "waitlist", .disable⟩, false⟩, .minimal⟩
    let submit (body : String) : Moment × Request := (⟨"", "", "", ""⟩,
      ⟨.post, ⟨none, none, "/api/subscribe", none⟩, [], ⟨body.toUTF8.toList, none⟩⟩)
    let sent := [submit "[\"a@b\"]", submit "[\"a@b\"]", submit "[]"]
    let store : Store := ⟨.server, ⟨[("waitlist", ⟨some [⟨"c@d", 1⟩], []⟩)], 1, none, none⟩⟩
    let final : Traffic :=
      (Traffic.start sent store).run service [0, 1, 2, 1, 1, 0, 2, 0, 2, 0, 2, 1]
    final.upserts = [(1, "a@b"), (0, "a@b")] ∧
      service.table final.store = some [⟨"c@d", 1⟩, ⟨"a@b", 3⟩] ∧
      ∀ (place : Nat) (moment : Moment) (request : Request),
        sent[place]? = some (moment, request) → final.flights[place]? =
          some ⟨moment, request, .answered (service.answer moment request store).1⟩ := by
  intro service submit sent store final
  have hopen : service.Open store := ⟨by decide +kernel, by decide +kernel, by decide +kernel⟩
  have hsent : ∀ r ∈ sent, r.2.IsSubmission := by
    simp [sent, submit, Request.IsSubmission]
  have hlanded : final.Landed := Traffic.landed_of_turns (by decide)
  obtain ⟨hflights, _⟩ := interleavings_agree service store _ hopen rfl sent hsent _ hlanded
  exact ⟨by decide +kernel, by decide +kernel,
    fun place moment request hplace => (hflights place moment request hplace).1⟩

end Service

end WaitingList
