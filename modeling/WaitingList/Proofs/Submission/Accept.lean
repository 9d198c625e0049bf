import WaitingList.Proofs.Email.Address
import WaitingList.Proofs.Submission.Completeness
import WaitingList.Proofs.Submission.Soundness
import WaitingList.Service.RequestError

namespace WaitingList.Submission

open Grammar

variable {body : List UInt8} {given : Given}

private theorem submits_of_remainder (h : Reader.start.Remainder (.gives given) body) :
    Submits body given := by
  rcases h with ⟨t, hbrace, hobject⟩ | ⟨t, hbracket, hlist⟩ | ⟨t, _, hwhole | ⟨hgiven, _⟩⟩
  · rcases hobject with ⟨⟨u, hclosing, hend⟩, hgiven⟩ | hmembers | ⟨hgiven, _⟩
    · obtain rfl := Reader.Outcome.gives.inj hgiven
      exact ⟨[], .inl ⟨.empty hbrace hclosing hend, by simp⟩, rfl⟩
    · obtain ⟨found, u, hmembers, hend, honce, hgiven⟩ := hmembers
      obtain rfl := Reader.Outcome.gives.inj hgiven
      exact ⟨found, .inl ⟨.members hbrace hmembers hend, honce⟩, rfl⟩
    · cases hgiven
  · rcases hlist with ⟨⟨u, hclosing, hend⟩, hgiven⟩ | ⟨u, hblanks, haddress | ⟨hgiven, _⟩⟩
    · obtain rfl := Reader.Outcome.gives.inj hgiven
      exact ⟨[], .inr (.empty hbracket hclosing hend), rfl⟩
    · obtain ⟨v, found, haddress, ⟨w, hclosing, hend⟩, hgiven⟩ := haddress
      obtain rfl := Reader.Outcome.gives.inj hgiven
      exact ⟨[given], .inr (.one hbracket hblanks haddress hclosing hend), rfl⟩
    · cases hgiven
  · -- Nothing else is read to its end, since nothing may follow an address that is the whole body.
    obtain ⟨u, found, _, hgiven⟩ := hwhole
    cases hgiven
  · cases hgiven

/-- What is read from a body is what it submits. -/
theorem read_eq_ok_iff : read body = .ok given ↔ Submits body given := by
  rw [read_eq_ok_iff_gives]
  constructor
  · intro h
    exact submits_of_remainder h.remainder
  · rintro ⟨found, ⟨hobject, honce⟩ | hlisted, rfl⟩
    · exact Reader.gives_of_object hobject honce
    · exact Reader.gives_of_listed hlisted

/-- A list holds at most one address. -/
theorem Grammar.Listed.length_le {found : List Given} (h : Listed body found) :
    found.length ≤ 1 := by
  cases h <;> simp

/-- An address is read exactly from the bodies that give one and give it once. -/
theorem read_eq_ok_some_iff {text : String} :
    read body = .ok (some text) ↔ Object body [some text] ∨ Listed body [some text] := by
  rw [read_eq_ok_iff]
  constructor
  · rintro ⟨found, hbody, hgiven⟩
    have honce : found.length ≤ 1 := by
      rcases hbody with ⟨_, honce⟩ | hlisted
      · exact honce
      · exact hlisted.length_le
    obtain rfl : found = [some text] := by
      match found, honce with
      | [], _ => cases hgiven
      | [_], _ => exact congrArg (fun given => [given]) hgiven.symm
    exact hbody.imp_left And.left
  · rintro (hobject | hlisted)
    · exact ⟨_, .inl ⟨hobject, by simp⟩, rfl⟩
    · exact ⟨_, .inr hlisted, rfl⟩

-- Inside an ignored member a text may be no text at all.
example :
    read ("\x7b\"x\":[\"\\ud800".toUTF8.toList ++
      0xFF :: "\"],\"\\u0065mail\":\"a@b\"\x7d".toUTF8.toList) = .ok (some "a@b") := by
  decide +kernel

/-- What a body is accepted for is the address that is read from it, once that has passed the check
of the policy. -/
theorem accept_eq_ok_iff_read {policy : EmailPolicy} {address : EmailAddress} :
    accept policy body = .ok address ↔
      ∃ text, read body = .ok (some text) ∧ EmailAddress.parse policy text = .ok address := by
  unfold accept
  cases hread : read body with
  | error fault => simp
  | ok given =>
    cases given with
    | none => simp
    | some text => cases hparse : EmailAddress.parse policy text <;> simp [hparse]

/-- A body is accepted exactly if it is of the grammar, gives an address once, and the address
passes the check of the policy. The address that is accepted is the one that the body gives,
character by character. Nothing is asked of the bytes beforehand. -/
theorem accept_eq_ok_iff_grammar (policy : EmailPolicy) (body : List UInt8) (text : String) :
    accept policy body = .ok ⟨text⟩ ↔
      (Object body [some text] ∨ Listed body [some text]) ∧
        ∃ address, EmailAddress.parse policy text = .ok address := by
  rw [accept_eq_ok_iff_read, ← read_eq_ok_some_iff]
  constructor
  · rintro ⟨given, hread, hparse⟩
    obtain ⟨htext, _⟩ := EmailAddress.parse_eq_ok_iff.mp hparse
    obtain rfl : text = given := congrArg EmailAddress.text htext
    exact ⟨hread, _, hparse⟩
  · rintro ⟨hread, address, hparse⟩
    obtain ⟨rfl, _⟩ := EmailAddress.parse_eq_ok_iff.mp hparse
    exact ⟨text, hread, hparse⟩

end WaitingList.Submission
