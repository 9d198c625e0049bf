import WaitingList.Service.Run
import WaitingList.Store.Pool

namespace WaitingList.Service

/-- Puts the address that a body submits on the list, over a connection of the pool. -/
def subscribePooled (service : Service) (body : Body) (p : PooledStore) :
    Subscription × PooledStore :=
  match body.submission service.policy with
  | .error error => (⟨none, some error⟩, p)
  | .ok address =>
    match service.manager.upsertPooled address.text p with
    | (.error error, p) => (⟨some address, some (.store error)⟩, p)
    | (.ok (), p) => (⟨some address, none⟩, p)

/-- The answer to a request. Only a submission takes a connection of the pool. -/
def answerPooled (service : Service) (moment : Moment) (request : Request) (p : PooledStore) :
    Exchange × PooledStore :=
  match Route.of request.method request.uri.path with
  | .subscribe =>
    let (subscription, p) := service.subscribePooled request.body p
    let inner : Handler := fun _ store => (.ofSubscription moment subscription, store)
    let (exchange, store) := inner.layered moment request p.store
    (exchange, { p with store })
  | _ =>
    let (exchange, store) := service.answer moment request p.store
    (exchange, { p with store })

def stepPooled (service : Service) (p : PooledStore) : Step → StepAnswer × PooledStore
  | .request moment request =>
    let (exchange, p) := service.answerPooled moment request p
    (.exchange exchange, p)
  | .migrate =>
    let (result, p) := service.manager.migratePooled p
    (.migrated result, p)
  | .fail failure => (.armed, p.arm failure)

/-- What steps are answered with one after the other, each with the pool and the store
afterwards. -/
def runPooled (service : Service) (p : PooledStore) : List Step → List (StepAnswer × PooledStore)
  | [] => []
  | s :: rest =>
    let (answer, p) := service.stepPooled p s
    (answer, p) :: service.runPooled p rest

end WaitingList.Service
