import WaitingList.Main
import WaitingList.Proofs.Connection.Delimiter
import WaitingList.Proofs.Connection.Query
import WaitingList.Proofs.Email.Ordinary
import WaitingList.Proofs.Email.Strict
import WaitingList.Proofs.Service.Endurance
import WaitingList.Proofs.Service.Interleaving
import WaitingList.Proofs.Service.Outage
import WaitingList.Proofs.Service.Ownership
import WaitingList.Proofs.Service.RequestId
import WaitingList.Proofs.Service.Routing
import WaitingList.Proofs.Service.Truncation
import WaitingList.Proofs.Service.Wording
import WaitingList.Proofs.Settings.Cache
import WaitingList.Proofs.Settings.Fidelity
import WaitingList.Proofs.Settings.Order
import WaitingList.Proofs.Settings.Secrecy
