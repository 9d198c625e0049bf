import WaitingList.Service.Layers

namespace WaitingList

/-- How far the handler of a submission has come. -/
inductive Stage where
  | arrived
  /-- The body has been read. -/
  | read (bytes : List UInt8)
  /-- The body has passed the checks. -/
  | checked (address : EmailAddress)
  /-- What becomes of the submission is settled. -/
  | settled (subscription : Subscription)
  | answered (exchange : Exchange)
  deriving DecidableEq, Repr

/-- A submission under way. -/
structure Flight where
  moment : Moment
  request : Request
  stage : Stage
  deriving DecidableEq, Repr

namespace Flight

/-- The address that a flight is about to write. -/
def upsert? (flight : Flight) : Option String :=
  match flight.stage with
  | .checked address => some address.text
  | _ => none

end Flight

/-- The stage that a flight comes to next, and the store afterwards. -/
def Service.advance (service : Service) (flight : Flight) (store : Store) : Stage × Store :=
  match flight.stage with
  | .arrived =>
    match flight.request.body.read with
    | .error error => (.settled ⟨none, some (.body error)⟩, store)
    | .ok bytes => (.read bytes, store)
  | .read bytes =>
    match Submission.accept service.policy bytes with
    | .error error => (.settled ⟨none, some error⟩, store)
    | .ok address => (.checked address, store)
  | .checked address =>
    match service.manager.upsert address.text store with
    | (.error error, store) => (.settled ⟨some address, some (.store error)⟩, store)
    | (.ok (), store) => (.settled ⟨some address, none⟩, store)
  | .settled subscription =>
    let inner : Handler := fun _ store => (.ofSubscription flight.moment subscription, store)
    let (exchange, store) := inner.layered flight.moment flight.request store
    (.answered exchange, store)
  | .answered exchange => (.answered exchange, store)

/-- Flights on one store, each known by its place. -/
structure Traffic where
  flights : List Flight
  store : Store
  /-- The upserts that the store was asked for, in order: by which flight, and of what address. -/
  upserts : List (Nat × String)
  deriving DecidableEq, Repr

namespace Traffic

/-- Requests that have just arrived. -/
def start (sent : List (Moment × Request)) (store : Store) : Traffic where
  flights := sent.map fun (moment, request) => ⟨moment, request, .arrived⟩
  store := store
  upserts := []

/-- Lets the flight in a place go on to its next stage. -/
def step (service : Service) (t : Traffic) (place : Nat) : Traffic :=
  match t.flights[place]? with
  | none => t
  | some flight =>
    let (stage, store) := service.advance flight t.store
    { flights := t.flights.set place { flight with stage }
      store
      upserts := t.upserts ++ (flight.upsert?.map (place, ·)).toList }

/-- Lets flights go on as a schedule says, which names their places in any order. -/
def run (service : Service) (t : Traffic) (schedule : List Nat) : Traffic :=
  schedule.foldl (step service) t

end Traffic

end WaitingList
