import WaitingList.Proofs.Service.Refusal
import WaitingList.Proofs.Submission.Accept
import WaitingList.Proofs.Submission.Truncation

namespace WaitingList

open Submission

namespace Service

/-- A body that is cut off is never taken for a submission. Where a body submits an address under
some policy, a beginning of it that lacks more than blanks is found to break off, at its very end,
and every submission of the beginning is told that it is no body and leaves the store as it was. Its
status tells whether the beginning is short enough to be looked at. -/
theorem refuses_truncated (policy : EmailPolicy) (cut rest : List UInt8) (address : EmailAddress)
    (haccepted : Submission.accept policy (cut ++ rest) = .ok address)
    (hmissing : ∃ b ∈ rest, isBlank b = false) :
    (∃ fault, BreaksOff fault ∧
      Submission.read cut = .error ⟨.malformed fault, Position.after cut⟩) ∧
    ∀ (service : Service) (moment : Moment) (request : Request) (store : Store),
      request.IsSubmission → request.body = ⟨cut, none⟩ →
        (service.answer moment request store).1.response.status =
            (if cut.length ≤ 2097152 then 400 else 413) ∧
          (service.answer moment request store).1.response.body =
            "\x7b\"error\":\"Invalid request body\"\x7d" ∧
          (service.answer moment request store).2 = store := by
  obtain ⟨text, hread, _⟩ := accept_eq_ok_iff_read.mp haccepted
  obtain ⟨fault, hbreaks, hcut⟩ := read_of_cut hread hmissing
  refine ⟨⟨fault, hbreaks, hcut⟩, ?_⟩
  intro service moment request store hsubmission hbody
  by_cases hshort : cut.length ≤ 2097152
  · have hrefused : request.body.Refused service.policy
        (.json ⟨.malformed fault, Position.after cut⟩) 400 "Invalid request body" := by
      rw [hbody]
      exact .malformed hshort rfl hcut rfl
    rw [if_pos hshort]
    exact response_of_refused hsubmission hrefused
  · have hrefused : request.body.Refused service.policy (.body .tooLong) 413
        "Invalid request body" := by
      rw [hbody]
      exact .tooLong (Nat.not_le.mp hshort)
    rw [if_neg hshort]
    exact response_of_refused hsubmission hrefused

/-- A body that breaks off between the two halves of a pair, inside a list that is passed over. -/
theorem refuses_truncated_inside_pair :
    let cut := "\x7b\"x\":[1,\"\\ud83d".toUTF8.toList
    let rest := "\\ude00\"],\"email\":\"a@b\"\x7d".toUTF8.toList
    let request : Request := ⟨.post, ⟨none, none, "/api/subscribe", none⟩, [], ⟨cut, none⟩⟩
    let store : Store := ⟨.server, ⟨[("waitlist", ⟨some [], []⟩)], 0, none, none⟩⟩
    let service : Service :=
      ⟨⟨⟨"postgres", "", 5432, "localhost", "waitlist", .disable⟩, false⟩, .minimal⟩
    Submission.accept .minimal (cut ++ rest) = .ok ⟨"a@b"⟩ ∧
      (service.answer ⟨"", "", "", ""⟩ request store).1.response.status = 400 ∧
      (service.answer ⟨"", "", "", ""⟩ request store).2 = store := by
  intro cut rest request store service
  have haccepted : Submission.accept .minimal (cut ++ rest) = .ok ⟨"a@b"⟩ := by decide +kernel
  have hshort : cut.length ≤ 2097152 := by decide +kernel
  have hmissing : ∃ b ∈ rest, isBlank b = false := ⟨0x7D, by decide +kernel, rfl⟩
  obtain ⟨hstatus, _, hstore⟩ := (refuses_truncated .minimal cut rest _ haccepted hmissing).2
    service ⟨"", "", "", ""⟩ request store ⟨rfl, rfl⟩ rfl
  exact ⟨haccepted, by rw [hstatus, if_pos hshort], hstore⟩

private theorem gives_replicate_blank {body : List UInt8} {given : Given} (n : Nat)
    (h : Reader.start.Gives body given) :
    Reader.start.Gives (List.replicate n 0x20 ++ body) given := by
  induction n with
  | zero => exact h
  | succ n ih => exact .step rfl ih

/-- A body that submits an address and is cut off by its last byte, but is too long even so, has
another status than a shorter one. -/
theorem not_refuses_truncated_oversized :
    let blanks := List.replicate 2097152 (0x20 : UInt8)
    let cut := blanks ++ "[\"a@b\"".toUTF8.toList
    let request : Request := ⟨.post, ⟨none, none, "/api/subscribe", none⟩, [], ⟨cut, none⟩⟩
    let store : Store := ⟨.server, ⟨[("waitlist", ⟨some [], []⟩)], 0, none, none⟩⟩
    let service : Service :=
      ⟨⟨⟨"postgres", "", 5432, "localhost", "waitlist", .disable⟩, false⟩, .minimal⟩
    Submission.accept .minimal (cut ++ [0x5D]) = .ok ⟨"a@b"⟩ ∧ isBlank 0x5D = false ∧
      request.IsSubmission ∧
      (service.answer ⟨"", "", "", ""⟩ request store).1.response.status = 413 ∧
      ¬ (service.answer ⟨"", "", "", ""⟩ request store).1.response.status = 400 := by
  intro blanks cut request store service
  have hlist : Submission.read "[\"a@b\"]".toUTF8.toList = .ok (some "a@b") := by decide +kernel
  have hread : Submission.read (cut ++ [0x5D]) = .ok (some "a@b") := by
    have hbody : cut ++ [0x5D] = blanks ++ "[\"a@b\"]".toUTF8.toList := by
      rw [List.append_assoc]
      exact congrArg (blanks ++ ·) (by decide +kernel)
    rw [hbody]
    exact read_eq_ok_iff_gives.mpr
      (gives_replicate_blank 2097152 (read_eq_ok_iff_gives.mp hlist))
  have haccepted : Submission.accept .minimal (cut ++ [0x5D]) = .ok ⟨"a@b"⟩ :=
    accept_eq_ok_iff_read.mpr ⟨"a@b", hread, by decide +kernel⟩
  have hlong : 2097152 < cut.length := by
    have hrest : 0 < ("[\"a@b\"".toUTF8.toList).length := by decide +kernel
    rw [List.length_append, List.length_replicate]
    omega
  have hrefused : request.body.Refused service.policy (.body .tooLong) 413
      "Invalid request body" := .tooLong hlong
  have hstatus : (service.answer ⟨"", "", "", ""⟩ request store).1.response.status = 413 :=
    (response_of_refused ⟨rfl, rfl⟩ hrefused).1
  exact ⟨haccepted, rfl, ⟨rfl, rfl⟩, hstatus, by rw [hstatus]; decide⟩

end Service

end WaitingList
