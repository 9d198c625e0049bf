import WaitingList.Proofs.Service.Agreement

namespace WaitingList

namespace Header

variable {value : List UInt8} {text : String} {b : UInt8}

/-- Text that any reader of a header can read: visible ASCII, spaces and tabs. -/
def Readable (value : List UInt8) : Prop := ∀ b ∈ value, 0x20 ≤ b ∧ b < 0x7F ∨ b = 0x09

theorem isReadableByte_iff : isReadableByte b ↔ 0x20 ≤ b ∧ b < 0x7F ∨ b = 0x09 := by
  simp [isReadableByte]

theorem readable_iff : Readable value ↔ value.all isReadableByte := by
  simp only [Readable, List.all_eq_true, isReadableByte_iff]

theorem lt_of_readable (h : Readable value) : ∀ b ∈ value, b < 0x80 := by
  intro b hb
  rcases h b hb with ⟨_, hlow⟩ | rfl
  · exact UInt8.lt_trans hlow (by decide)
  · decide

/-- A value that is readable is read as its own bytes. -/
theorem readable?_of_readable (h : Readable value) :
    ∃ text, readable? value = some text ∧ Utf8.encode text.toList = value := by
  obtain ⟨text, rfl⟩ := Utf8.exists_text_of_ascii (lt_of_readable h)
  refine ⟨String.ofList text, ?_, by rw [String.toList_ofList]⟩
  rw [readable?, if_pos (readable_iff.mp h)]
  exact Utf8.text?_eq_some_iff.mpr (by rw [String.toList_ofList])

theorem readable?_of_not_readable (h : ¬ Readable value) : readable? value = none := by
  rw [readable?, if_neg (h ∘ readable_iff.mpr)]

end Header

namespace Request

variable {request : Request} {moment : Moment}

theorem responseId_of_cons {field : Header} {rest : List Header}
    (h : request.headers.filter (·.name = "x-request-id") = field :: rest) :
    request.responseId moment = field.value := by
  rw [responseId, clientId?, Header.first?, ← List.head?_filter, Response.requestIdName, h]
  rfl

theorem responseId_of_nil (h : request.headers.filter (·.name = "x-request-id") = []) :
    request.responseId moment = Utf8.encode moment.newId.toList := by
  rw [responseId, clientId?, Header.first?, ← List.head?_filter, Response.requestIdName, h]
  rfl

theorem encode_loggedId (h : Header.Readable (request.responseId moment)) :
    Utf8.encode (request.loggedId moment).toList = request.responseId moment := by
  obtain ⟨text, hread, htext⟩ := Header.readable?_of_readable h
  rw [loggedId, hread, Option.getD_some, htext]

theorem loggedId_of_not_readable (h : ¬ Header.Readable (request.responseId moment)) :
    request.loggedId moment = moment.spareId := by
  rw [loggedId, Header.readable?_of_not_readable h, Option.getD_none]

end Request

namespace Service

/-- Each request of a run gets one id on its response, whatever its route and what becomes of it:
the first that the client gave it, byte by byte, or else the new one. The log has the same id if it
can be read, and only else another. -/
theorem request_id_propagates (service : Service) (store : Store) (steps : List Step) (i : Nat)
    (moment : Moment) (request : Request) (hstep : steps[i]? = some (.request moment request)) :
    ∃ exchange now id line, (service.run store steps)[i]? = some (.exchange exchange, now) ∧
      exchange.response.headers.filter (·.name = "x-request-id") = [⟨"x-request-id", id⟩] ∧
      (∀ field rest, request.headers.filter (·.name = "x-request-id") = field :: rest →
        id = field.value) ∧
      (request.headers.filter (·.name = "x-request-id") = [] →
        id = Utf8.encode moment.newId.toList) ∧
      exchange.requestLines = [line] ∧
      (Header.Readable id → Utf8.encode line.requestId.toList = id) ∧
      (¬ Header.Readable id → line.requestId = moment.spareId) := by
  have hquiet := service.quiet_handle moment request (service.after store (steps.take i))
  exact ⟨_, _, request.responseId moment, _, run_of_request hstep, Header.filter_set,
    fun _ _ => Request.responseId_of_cons, Request.responseId_of_nil,
    Passage.requestLines_exchange hquiet, Request.encode_loggedId,
    Request.loggedId_of_not_readable⟩

/-- The second of two ids counts for nothing, though the first cannot be read: the client gets it
back as it is, and the log makes one up. -/
theorem request_id_propagates_unreadable :
    let service : Service :=
      ⟨⟨⟨"postgres", "", 5432, "localhost", "waitlist", .disable⟩, false⟩, .minimal⟩
    let request : Request := ⟨.get, ⟨none, none, "/api/subscribe", none⟩,
      [⟨"x-request-id", [0xFF]⟩, .ofText "x-request-id" "b"], ⟨[], none⟩⟩
    let steps : List Step := [.request ⟨"", "", "n", "s"⟩ request]
    ∃ exchange now line, (service.run ⟨.nowhere, .empty⟩ steps)[0]? =
        some (.exchange exchange, now) ∧ exchange.requestLines = [line] ∧
      exchange.response.headers.filter (·.name = "x-request-id") = [⟨"x-request-id", [0xFF]⟩] ∧
      line.requestId = "s" := by
  intro service request steps
  obtain ⟨exchange, now, id, line, hpoint, hfields, hgiven, _, hlines, _, hspare⟩ :=
    request_id_propagates service ⟨.nowhere, .empty⟩ steps 0 _ request rfl
  obtain rfl := hgiven _ _ rfl
  exact ⟨exchange, now, line, hpoint, hlines, hfields, hspare (by simp [Header.Readable])⟩

end Service

end WaitingList
