import WaitingList.Service.Layers

namespace WaitingList

/-- What happens to a service. -/
inductive Step where
  | request (moment : Moment) (request : Request)
  | migrate
  | fail (failure : Failure)
  deriving DecidableEq, Repr

inductive StepAnswer where
  | exchange (exchange : Exchange)
  | migrated (result : Except ManagerError Unit)
  | armed
  deriving Repr

namespace Service

def step (service : Service) (store : Store) : Step → StepAnswer × Store
  | .request moment request =>
    let (exchange, store) := service.answer moment request store
    (.exchange exchange, store)
  | .migrate =>
    let outcome := service.manager.migrate store
    (.migrated outcome.result, outcome.store)
  | .fail failure => (.armed, store.arm failure)

/-- What steps are answered with one after the other, each with the store afterwards. -/
def run (service : Service) (store : Store) : List Step → List (StepAnswer × Store)
  | [] => []
  | s :: rest =>
    let (answer, store) := service.step store s
    (answer, store) :: service.run store rest

end Service

end WaitingList
