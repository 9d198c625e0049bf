import WaitingList.Proofs.Service.Refusal
import WaitingList.Proofs.Submission.Accept
import WaitingList.Proofs.Submission.Verdict
import WaitingList.Proofs.Submission.Wellformed

namespace WaitingList

open Submission Grammar

namespace Service

/-- A request is refused with a text for the client, and the store stays as it was. -/
def Refuses (service : Service) (moment : Moment) (request : Request) (store : Store)
    (told : String) : Prop :=
  (service.answer moment request store).1.response.status = 400 ∧
    (service.answer moment request store).1.response.body =
      "\x7b\"error\":\"" ++ told ++ "\"\x7d" ∧
    (service.answer moment request store).2 = store

section

variable {service : Service} {moment : Moment} {request : Request} {store : Store}

theorem refuses_of_refused {error : RequestError} {told : String}
    (hsubmission : request.IsSubmission)
    (hrefused : request.body.Refused service.policy error 400 told) :
    service.Refuses moment request store told :=
  response_of_refused hsubmission hrefused

/-- A client is told one of the two, and not the other. -/
theorem not_refuses_body_of_email (h : service.Refuses moment request store "Invalid email") :
    ¬ service.Refuses moment request store "Invalid request body" := by
  intro hbody
  have hsame := h.2.1.symm.trans hbody.2.1
  revert hsame
  decide

/-- A submission that passes the checks is not refused, though its write may fail. -/
theorem not_refuses_of_address {address : EmailAddress} {told : String}
    (hsubmission : request.IsSubmission)
    (haddress : request.body.submission service.policy = .ok address) :
    ¬ service.Refuses moment request store told := by
  rintro ⟨hstatus, _⟩
  rw [answer_of_isSubmission service moment store hsubmission] at hstatus
  rcases hupsert : service.manager.upsert address.text store with ⟨error | done, after⟩
  · rw [subscribe_of_unwritten haddress hupsert] at hstatus
    cases hstatus
  · rw [subscribe_of_written haddress hupsert] at hstatus
    cases hstatus

section Whole

variable (hsubmission : request.IsSubmission) (hshort : request.body.bytes.length ≤ 2097152)
  (hwhole : request.body.breakage = none)

include hsubmission hshort hwhole

theorem refuses_of_misshapen (h : Misshapen request.body.bytes) :
    service.Refuses moment request store "Invalid email" := by
  obtain ⟨fault, hread, hshape⟩ := read_concernsShape_iff.mpr h
  exact refuses_of_refused hsubmission (.misshapen hshort hwhole hread hshape)

theorem refuses_of_mistaken (h : Mistaken request.body.bytes) :
    service.Refuses moment request store "Invalid request body" := by
  obtain ⟨fault, hread, hform⟩ := read_of_mistaken h
  exact refuses_of_refused hsubmission (.malformed hshort hwhole hread hform)

/-- What submits something gives an address that passes the checks, or is refused for giving
none. -/
theorem address_or_refuses_of_submits {given : Given} (h : Submits request.body.bytes given) :
    (∃ address, request.body.submission service.policy = .ok address) ∨
      service.Refuses moment request store "Invalid email" := by
  have hread := read_eq_ok_iff.mpr h
  rw [Body.submission_of_whole hshort hwhole, accept, hread]
  cases given with
  | none => exact .inr (refuses_of_refused hsubmission (.missing hshort hwhole hread))
  | some text =>
    cases hparse : EmailAddress.parse service.policy text with
    | ok address => exact .inl ⟨address, by simp [hparse]⟩
    | error fault =>
      exact .inr (refuses_of_refused hsubmission (.unacceptable hshort hwhole hread hparse))

theorem refuses_body_iff :
    service.Refuses moment request store "Invalid request body" ↔
      ¬ Misshapen request.body.bytes ∧ ∀ given, ¬ Submits request.body.bytes given := by
  constructor
  · intro hbody
    refine ⟨fun hmisshapen => ?_, fun given hsubmits => ?_⟩
    · have hemail : service.Refuses moment request store "Invalid email" :=
        refuses_of_misshapen hsubmission hshort hwhole hmisshapen
      exact not_refuses_body_of_email hemail hbody
    · rcases address_or_refuses_of_submits hsubmission hshort hwhole hsubmits with
        ⟨address, haddress⟩ | hemail
      · exact not_refuses_of_address hsubmission haddress hbody
      · exact not_refuses_body_of_email hemail hbody
  · rintro ⟨hshape, hnone⟩
    cases hread : Submission.read request.body.bytes with
    | ok given => exact absurd (read_eq_ok_iff.mp hread) (hnone given)
    | error fault =>
      cases hcause : fault.cause.concernsShape with
      | true => exact absurd (read_concernsShape_iff.mp ⟨fault, hread, hcause⟩) hshape
      | false => exact refuses_of_refused hsubmission (.malformed hshort hwhole hread hcause)

end Whole

end

/-- A submission of no JSON is refused as such, and leaves the store as it was, but for two cases.
If what the body begins with is of the wrong shape, the client is told of the address, though the
body is no JSON where it goes on. And if the body is JSON but for a text that is skipped inside an
ignored member, nobody looks at that text. -/
theorem refuses_illformed_iff (service : Service) (moment : Moment) (request : Request)
    (store : Store) (hsubmission : request.IsSubmission)
    (hshort : request.body.bytes.length ≤ 2097152) (hwhole : request.body.breakage = none)
    (hjson : ¬ Json Written .element request.body.bytes []) :
    (service.Refuses moment request store "Invalid request body" ↔
      ¬ Misshapen request.body.bytes ∧ ∀ given, ¬ Submits request.body.bytes given) ∧
    (Misshapen request.body.bytes → service.Refuses moment request store "Invalid email") ∧
    ∀ given, Submits request.body.bytes given →
      ((∃ address, request.body.submission service.policy = .ok address) ∨
        service.Refuses moment request store "Invalid email") ∧
      ∃ u v, quote :: u <:+ request.body.bytes ∧ Skipped u v ∧ ¬ Written u v := by
  refine ⟨refuses_body_iff hsubmission hshort hwhole, ?_, ?_⟩
  · exact refuses_of_misshapen hsubmission hshort hwhole
  · intro given hsubmits
    refine ⟨?_, hsubmits.exists_unwritten hjson⟩
    exact address_or_refuses_of_submits hsubmission hshort hwhole hsubmits

/-- An object that breaks off behind a text is refused as no JSON. -/
theorem refuses_illformed_iff_unclosed :
    let body : Body := ⟨"\x7b\"email\":\"a@b\"".toUTF8.toList, none⟩
    let request : Request := ⟨.post, ⟨none, none, "/api/subscribe", none⟩, [], body⟩
    let store : Store := ⟨.server, ⟨[("waitlist", ⟨some [], []⟩)], 0, none, none⟩⟩
    let service : Service :=
      ⟨⟨⟨"postgres", "", 5432, "localhost", "waitlist", .disable⟩, false⟩, .minimal⟩
    ¬ Json Written .element body.bytes [] ∧
      service.Refuses ⟨"", "", "", ""⟩ request store "Invalid request body" := by
  intro body request store service
  have hjson : ¬ Json Written .element body.bytes [] := by
    intro h
    have hclosing := h.closing_mem (by decide +kernel)
    revert hclosing
    decide +kernel
  have hread : Submission.read body.bytes =
      .error ⟨.malformed (.endsInside .object), ⟨1, 14⟩⟩ := by decide +kernel
  have hrefuses := (refuses_illformed_iff service ⟨"", "", "", ""⟩ request store ⟨rfl, rfl⟩
    (by decide +kernel) rfl hjson).1
  refine ⟨hjson, hrefuses.mpr ⟨fun hmisshapen => ?_, fun given hsubmits => ?_⟩⟩
  · obtain ⟨fault, hfault, hshape⟩ := read_concernsShape_iff.mpr hmisshapen
    obtain rfl := Except.error.inj (hread.symm.trans hfault)
    cases hshape
  · cases hread.symm.trans (read_eq_ok_iff.mpr hsubmits)

/-- An object that breaks off behind a number is no JSON, and the client is told of the address. -/
theorem refuses_illformed_as_email :
    let body : Body := ⟨"\x7b\"email\":42".toUTF8.toList, none⟩
    let request : Request := ⟨.post, ⟨none, none, "/api/subscribe", none⟩, [], body⟩
    let store : Store := ⟨.server, ⟨[("waitlist", ⟨some [], []⟩)], 0, none, none⟩⟩
    let service : Service :=
      ⟨⟨⟨"postgres", "", 5432, "localhost", "waitlist", .disable⟩, false⟩, .minimal⟩
    request.IsSubmission ∧ body.bytes.length ≤ 2097152 ∧ body.breakage = none ∧
      ¬ Json Written .element body.bytes [] ∧
      service.Refuses ⟨"", "", "", ""⟩ request store "Invalid email" ∧
      ¬ service.Refuses ⟨"", "", "", ""⟩ request store "Invalid request body" := by
  intro body request store service
  have hsubmission : request.IsSubmission := ⟨rfl, rfl⟩
  have hread : Submission.read body.bytes =
      .error ⟨.wrongKind (.number (.integer 42)) .email, ⟨1, 11⟩⟩ := by decide +kernel
  have hemail : service.Refuses ⟨"", "", "", ""⟩ request store "Invalid email" :=
    refuses_of_refused hsubmission (.misshapen (by decide +kernel) rfl hread rfl)
  refine ⟨hsubmission, by decide +kernel, rfl, ?_, hemail, not_refuses_body_of_email hemail⟩
  intro hjson
  have hclosing := hjson.closing_mem (by decide +kernel)
  revert hclosing
  decide +kernel

/-- A submission of JSON that gives no acceptable address is refused for that, but for one case. If
a number that is too great stands where an address is needed, or a list goes on behind an address,
the client is told that the body is no JSON. -/
theorem refuses_wellformed_iff (service : Service) (moment : Moment) (request : Request)
    (store : Store) (hsubmission : request.IsSubmission)
    (hshort : request.body.bytes.length ≤ 2097152) (hwhole : request.body.breakage = none)
    (hjson : Json Decoded .element request.body.bytes [])
    (hnone : ∀ address, request.body.submission service.policy ≠ .ok address) :
    (service.Refuses moment request store "Invalid email" ↔ ¬ Mistaken request.body.bytes) ∧
    (Mistaken request.body.bytes →
      service.Refuses moment request store "Invalid request body") := by
  refine ⟨⟨fun hemail hmistaken => ?_, fun hnot => ?_⟩, ?_⟩
  · exact not_refuses_body_of_email hemail
      (refuses_of_mistaken hsubmission hshort hwhole hmistaken)
  · rcases submits_or_misshapen_or_mistaken hjson with ⟨given, hsubmits⟩ | hmisshapen | hmistaken
    · rcases address_or_refuses_of_submits hsubmission hshort hwhole hsubmits with
        ⟨address, haddress⟩ | hemail
      · exact absurd haddress (hnone address)
      · exact hemail
    · exact refuses_of_misshapen hsubmission hshort hwhole hmisshapen
    · exact absurd hmistaken hnot
  · exact refuses_of_mistaken hsubmission hshort hwhole

/-- The submissions whose address is a number. -/
private theorem json_of_number {t : List UInt8} (hnumber : Number t [0x7D]) :
    Json Decoded .element
      (0x7B :: 0x22 :: 0x65 :: 0x6D :: 0x61 :: 0x69 :: 0x6C :: 0x22 :: 0x3A :: t) [] := by
  have hplain (c : Char) {u r : List UInt8} {cs : List Char}
      (hc : 0x20 ≤ c.toNat ∧ c ≠ '"' ∧ c ≠ '\\') (h : Chars u cs r) :
      Chars (String.utf8EncodeChar c ++ u) (c :: cs) r :=
    .plain hc.1 hc.2.1 hc.2.2 h
  have hname : Chars (0x65 :: 0x6D :: 0x61 :: 0x69 :: 0x6C :: 0x22 :: 0x3A :: t) "email".toList
      (0x3A :: t) :=
    hplain 'e' (by decide) (hplain 'm' (by decide) (hplain 'a' (by decide)
      (hplain 'i' (by decide) (hplain 'l' (by decide) .close))))
  have hmember : Json Decoded .member
      (0x22 :: 0x65 :: 0x6D :: 0x61 :: 0x69 :: 0x6C :: 0x22 :: 0x3A :: t) [0x7D] :=
    .member .nil ⟨_, hname⟩ .nil (.element .nil (.number hnumber) .nil)
  exact .element .nil (.object (.lastMember hmember)) .nil

/-- A number that is not too great is told of as what it is. -/
theorem refuses_wellformed_iff_number :
    let body : Body := ⟨"\x7b\"email\":42\x7d".toUTF8.toList, none⟩
    let request : Request := ⟨.post, ⟨none, none, "/api/subscribe", none⟩, [], body⟩
    let store : Store := ⟨.server, ⟨[("waitlist", ⟨some [], []⟩)], 0, none, none⟩⟩
    let service : Service :=
      ⟨⟨⟨"postgres", "", 5432, "localhost", "waitlist", .disable⟩, false⟩, .minimal⟩
    Json Decoded .element body.bytes [] ∧
      service.Refuses ⟨"", "", "", ""⟩ request store "Invalid email" := by
  intro body request store service
  have hjson : Json Decoded .element body.bytes [] := by
    have hbytes : body.bytes =
        [0x7B, 0x22, 0x65, 0x6D, 0x61, 0x69, 0x6C, 0x22, 0x3A, 0x34, 0x32, 0x7D] := by
      decide +kernel
    rw [hbytes]
    exact json_of_number (.plain ⟨.digits (by decide) (.cons (by decide) .nil), .absent, .absent⟩)
  have hread : Submission.read body.bytes =
      .error ⟨.wrongKind (.number (.integer 42)) .email, ⟨1, 11⟩⟩ := by decide +kernel
  have hshort : body.bytes.length ≤ 2097152 := by decide +kernel
  have hnone (address : EmailAddress) : request.body.submission service.policy ≠ .ok address := by
    rw [(Body.Refused.misshapen hshort rfl hread rfl).submission]
    simp
  have hrefuses := (refuses_wellformed_iff service ⟨"", "", "", ""⟩ request store ⟨rfl, rfl⟩ hshort
    rfl hjson hnone).1
  refine ⟨hjson, hrefuses.mpr fun hmistaken => ?_⟩
  obtain ⟨fault, hfault, hform⟩ := read_of_mistaken hmistaken
  obtain rfl := Except.error.inj (hread.symm.trans hfault)
  cases hform

/-- A number that is too great makes a body pass for no JSON. -/
theorem refuses_wellformed_as_body :
    let body : Body := ⟨"\x7b\"email\":1e999\x7d".toUTF8.toList, none⟩
    let request : Request := ⟨.post, ⟨none, none, "/api/subscribe", none⟩, [], body⟩
    let store : Store := ⟨.server, ⟨[("waitlist", ⟨some [], []⟩)], 0, none, none⟩⟩
    let service : Service :=
      ⟨⟨⟨"postgres", "", 5432, "localhost", "waitlist", .disable⟩, false⟩, .minimal⟩
    request.IsSubmission ∧ body.bytes.length ≤ 2097152 ∧ body.breakage = none ∧
      Json Decoded .element body.bytes [] ∧
      (∀ address, request.body.submission service.policy ≠ .ok address) ∧
      service.Refuses ⟨"", "", "", ""⟩ request store "Invalid request body" ∧
      ¬ service.Refuses ⟨"", "", "", ""⟩ request store "Invalid email" := by
  intro body request store service
  have hsubmission : request.IsSubmission := ⟨rfl, rfl⟩
  have hshort : body.bytes.length ≤ 2097152 := by decide +kernel
  have hjson : Json Decoded .element body.bytes [] := by
    have hbytes : body.bytes = [0x7B, 0x22, 0x65, 0x6D, 0x61, 0x69, 0x6C, 0x22, 0x3A, 0x31, 0x65,
        0x39, 0x39, 0x39, 0x7D] := by
      decide +kernel
    have hexponent : Exponent [0x65, 0x39, 0x39, 0x39, 0x7D] [0x7D] :=
      .plain (by decide) ⟨by decide, .cons (by decide) (.cons (by decide) .nil)⟩
    rw [hbytes]
    exact json_of_number (.plain ⟨.digits (by decide) .nil, .absent, hexponent⟩)
  have hread : Submission.read body.bytes =
      .error ⟨.malformed .numberOutOfRange, ⟨1, 14⟩⟩ := by decide +kernel
  have hrefused : request.body.Refused service.policy _ 400 "Invalid request body" :=
    .malformed hshort rfl hread rfl
  have hbody : service.Refuses ⟨"", "", "", ""⟩ request store "Invalid request body" :=
    refuses_of_refused hsubmission hrefused
  refine ⟨hsubmission, hshort, rfl, hjson, fun address => ?_, hbody, fun hemail =>
    not_refuses_body_of_email hemail hbody⟩
  rw [hrefused.submission]
  simp

end Service

end WaitingList
