import WaitingList.Service.Exchange

namespace WaitingList

/-- Managers by their places. Each has room for a connection, and every connection that it makes to
the server can be closed. -/
structure Roster where
  managers : List (Option Manager)
  store : Store
  deriving DecidableEq, Repr

inductive ManagerAction where
  /-- Asks for the name of its own database. -/
  | name
  | migrate
  /-- Asks whether it was closed. -/
  | closed
  /-- Closes it. -/
  | close
  /-- Sends a service on it a submission. -/
  | subscribe (body : Body)
  deriving DecidableEq, Repr

inductive RosterStep where
  /-- Adds a manager of the target's database. -/
  | add
  /-- Adds a manager with a database of its own, named by a token. -/
  | addTest (token : String)
  | act (place : Nat) (action : ManagerAction)
  | fail (failure : Failure)
  deriving DecidableEq, Repr

inductive RosterAnswer where
  | done (result : Except ManagerError Unit) (events : List Event)
  | ownDatabase (name : Option String)
  | isClosed (closed : Bool)
  | response (response : Response)
  /-- There is no manager in the place. -/
  | noManager
  deriving Repr

namespace Roster

def manager? (r : Roster) (place : Nat) : Option Manager := (r.managers[place]?).join

/-- What a service on a manager answers to a submission. -/
def submit (m : Manager) (policy : EmailPolicy) (body : Body) (store : Store) :
    Response × Store :=
  let (subscription, store) := (Service.mk m policy).subscribe body store
  (subscription.response, store)

/-- What is done with a manager, and the roster afterwards. Closing empties the manager's place
even if it fails. -/
def act (r : Roster) (target : ConnectionTarget) (policy : EmailPolicy) (place : Nat)
    (m : Manager) : ManagerAction → RosterAnswer × Roster
  | .name => (.ownDatabase m.ownDatabase?, r)
  | .closed => (.isClosed false, r)
  | .migrate =>
    let outcome := m.migrate r.store
    (.done outcome.result outcome.events, { r with store := outcome.store })
  | .close =>
    let outcome := m.close target none r.store
    (.done outcome.result outcome.events, ⟨r.managers.set place none, outcome.store⟩)
  | .subscribe body =>
    let (response, store) := submit m policy body r.store
    (.response response, { r with store })

/-- What a step is answered with, and the roster afterwards. -/
def step (r : Roster) (target : ConnectionTarget) (policy : EmailPolicy) :
    RosterStep → RosterAnswer × Roster
  | .add =>
    (.done (.ok ()) [.poolOpened], { r with managers := r.managers ++ [some (.ofTarget target)] })
  | .addTest token =>
    let outcome := Manager.ofTest target 1 token none r.store
    match outcome.result with
    | .ok m => (.done (.ok ()) outcome.events, ⟨r.managers ++ [some m], outcome.store⟩)
    | .error error => (.done (.error error) outcome.events, { r with store := outcome.store })
  | .fail failure => (.done (.ok ()) [], { r with store := r.store.arm failure })
  | .act place action =>
    match r.manager? place with
    | some m => r.act target policy place m action
    | none => (.noManager, r)

/-- What steps are answered with one after the other, each with the roster afterwards. -/
def run (r : Roster) (target : ConnectionTarget) (policy : EmailPolicy) :
    List RosterStep → List (RosterAnswer × Roster)
  | [] => []
  | s :: rest =>
    let (answer, r) := r.step target policy s
    (answer, r) :: r.run target policy rest

end Roster

end WaitingList
