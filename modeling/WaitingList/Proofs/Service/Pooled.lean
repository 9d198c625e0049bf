import WaitingList.Proofs.Service.Traffic
import WaitingList.Proofs.Store.Pool
import WaitingList.Service.Pooled

namespace WaitingList

/-- The requests that submit an address are those of one route. -/
theorem Request.isSubmission_iff_route (request : Request) :
    request.IsSubmission ↔ Route.of request.method request.uri.path = .subscribe := by
  constructor
  · rintro ⟨hmethod, hpath⟩
    rw [hmethod, hpath]
    decide
  · intro hroute
    unfold Route.of at hroute
    split at hroute
    · split at hroute <;> cases hroute
    next =>
      split at hroute
      next hpath =>
        split at hroute
        next hmethod => exact ⟨hmethod, hpath⟩
        next => cases hroute
      next => cases hroute

namespace Service

/-- The pool and the store after steps. -/
def afterPooled (service : Service) (p : PooledStore) (steps : List Step) : PooledStore :=
  steps.foldl (fun p s => (service.stepPooled p s).2) p

variable {service : Service} {p : PooledStore} {moment : Moment} {request : Request}

section Answer

theorem answerPooled_of_isSubmission (service : Service) (moment : Moment) (p : PooledStore)
    (hsubmission : request.IsSubmission) :
    service.answerPooled moment request p =
      ((Passage.ofSubscription moment (service.subscribePooled request.body p).1).exchange moment
        request, (service.subscribePooled request.body p).2) := by
  have hroute := request.isSubmission_iff_route.mp hsubmission
  simp only [answerPooled, hroute, layered_ofSubscription]

/-- A request that submits nothing takes no connection. -/
theorem answerPooled_of_not_isSubmission (service : Service) (moment : Moment) (p : PooledStore)
    (hother : ¬ request.IsSubmission) :
    service.answerPooled moment request p = ((service.answer moment request p.store).1, p) := by
  have hstore : (service.answer moment request p.store).2 = p.store :=
    answer_of_not_isSubmission hother
  rw [request.isSubmission_iff_route] at hother
  unfold answerPooled
  split
  next hroute => exact absurd hroute hother
  next =>
    rcases hanswer : service.answer moment request p.store with ⟨exchange, store⟩
    rw [hanswer] at hstore
    obtain rfl : store = p.store := hstore
    rfl

end Answer

section Resting

/-- A submission over a pool at rest comes to what it comes to on the store. -/
theorem subscribePooled_of_resting (h : p.Resting service.manager.target.options) (body : Body) :
    (service.subscribePooled body p).1 = (service.subscribe body p.store).1 ∧
      (service.subscribePooled body p).2.store = (service.subscribe body p.store).2 ∧
      (service.subscribePooled body p).2.Resting service.manager.target.options := by
  cases hsubmission : body.submission service.policy with
  | error error =>
    simp only [subscribePooled, subscribe, hsubmission]
    exact ⟨trivial, trivial, h⟩
  | ok address =>
    obtain ⟨hresult, hstore, hrests⟩ := Manager.upsertPooled_of_resting h address.text
    rcases hpooled : service.manager.upsertPooled address.text p with ⟨result, after⟩
    rcases hupsert : service.manager.upsert address.text p.store with ⟨result', after'⟩
    rw [hpooled, hupsert] at hresult hstore
    rw [hpooled] at hrests
    obtain rfl : result = result' := hresult
    cases result <;> simp only [subscribePooled, subscribe, hsubmission, hpooled, hupsert] <;>
      exact ⟨trivial, hstore, hrests⟩

theorem answerPooled_of_resting (h : p.Resting service.manager.target.options) (moment : Moment)
    (request : Request) :
    (service.answerPooled moment request p).1 = (service.answer moment request p.store).1 ∧
      (service.answerPooled moment request p).2.store =
        (service.answer moment request p.store).2 ∧
      (service.answerPooled moment request p).2.Resting service.manager.target.options := by
  by_cases hsubmission : request.IsSubmission
  · obtain ⟨hbecomes, hstore, hrests⟩ := subscribePooled_of_resting h request.body
    rw [answerPooled_of_isSubmission service moment p hsubmission,
      answer_of_isSubmission service moment p.store hsubmission, hbecomes]
    exact ⟨rfl, hstore, hrests⟩
  · rw [answerPooled_of_not_isSubmission service moment p hsubmission,
      answer_of_not_isSubmission hsubmission]
    exact ⟨rfl, rfl, h⟩

/-- A step over a pool at rest is the step on its store, and leaves the pool at rest. -/
theorem stepPooled_of_resting (h : p.Resting service.manager.target.options) (s : Step) :
    (service.stepPooled p s).1 = (service.step p.store s).1 ∧
      (service.stepPooled p s).2.store = (service.step p.store s).2 ∧
      (service.stepPooled p s).2.Resting service.manager.target.options := by
  cases s with
  | request moment request =>
    obtain ⟨hexchange, hstore, hrests⟩ := answerPooled_of_resting h moment request
    exact ⟨congrArg StepAnswer.exchange hexchange, hstore, hrests⟩
  | migrate =>
    obtain ⟨hresult, hstore, hrests⟩ := Manager.migratePooled_of_resting h
    exact ⟨congrArg StepAnswer.migrated hresult, hstore, hrests⟩
  | fail failure => exact ⟨rfl, rfl, h.store rfl rfl⟩

/-- A run leaves the pool at rest, with the store that the run leaves without a pool. -/
theorem afterPooled_of_resting (h : p.Resting service.manager.target.options)
    (steps : List Step) :
    (service.afterPooled p steps).store = service.after p.store steps ∧
      (service.afterPooled p steps).Resting service.manager.target.options := by
  induction steps generalizing p with
  | nil => exact ⟨rfl, h⟩
  | cons s rest ih =>
    obtain ⟨_, hstore, hrests⟩ := stepPooled_of_resting h s
    obtain ⟨hafter, hlast⟩ := ih hrests
    rw [hstore] at hafter
    exact ⟨hafter, hlast⟩

/-- A run over a pool is answered, step by step, as the run on the store alone. -/
theorem runPooled_of_resting (h : p.Resting service.manager.target.options) (steps : List Step) :
    (service.runPooled p steps).map (fun (answer, now) => (answer, now.store)) =
      service.run p.store steps := by
  induction steps generalizing p with
  | nil => rfl
  | cons s rest ih =>
    obtain ⟨hanswer, hstore, hrests⟩ := stepPooled_of_resting h s
    have hrest := ih hrests
    rw [hstore] at hrest
    simp only [runPooled, run, List.map_cons, hanswer, hstore, hrest]

end Resting

end Service

end WaitingList
