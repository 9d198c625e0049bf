import WaitingList.Proofs.Http.Uri
import WaitingList.Proofs.Service.Ledger

namespace WaitingList

/-- The status and the header fields of the response to a request that submits nothing, by its
method and its path. The response has no body. -/
inductive Elsewhere (method : Method) (path : String) : Nat → List Header → Prop where
  | alive (hpath : path = "/health-check") (hmethod : method = .get ∨ method = .head) :
      Elsewhere method path 200 [.ofText "content-length" "0"]
  | healthOnly (hpath : path = "/health-check") (hmethod : ¬ (method = .get ∨ method = .head)) :
      Elsewhere method path 405 [.ofText "allow" "GET,HEAD", .ofText "content-length" "0"]
  | subscribeOnly (hpath : path = "/api/subscribe") (hmethod : method ≠ .post) :
      Elsewhere method path 405 [.ofText "allow" "POST", .ofText "content-length" "0"]
  | unknown (hhealth : path ≠ "/health-check") (hsubscribe : path ≠ "/api/subscribe") :
      Elsewhere method path 404 []

namespace Elsewhere

variable {method : Method} {path : String} {status : Nat} {headers : List Header}

/-- The table has one entry for a method and a path. -/
theorem unique {status' : Nat} {headers' : List Header}
    (h : Elsewhere method path status headers) (h' : Elsewhere method path status' headers') :
    status' = status ∧ headers' = headers := by
  cases h with
  | alive hpath hmethod | healthOnly hpath hmethod =>
    subst hpath
    cases h' with
    | alive _ hmethod' | healthOnly _ hmethod' => first | exact ⟨rfl, rfl⟩ | contradiction
    | subscribeOnly hpath => exact absurd hpath (by decide)
    | unknown hhealth => exact absurd rfl hhealth
  | subscribeOnly hpath =>
    subst hpath
    cases h' with
    | alive hpath | healthOnly hpath => exact absurd hpath (by decide)
    | subscribeOnly => exact ⟨rfl, rfl⟩
    | unknown _ hsubscribe => exact absurd rfl hsubscribe
  | unknown hhealth hsubscribe =>
    cases h' with
    | alive hpath | healthOnly hpath => exact absurd hpath hhealth
    | subscribeOnly hpath => exact absurd hpath hsubscribe
    | unknown => exact ⟨rfl, rfl⟩

/-- The table misses no request that submits nothing. -/
theorem exists_of_other (hother : ¬ (method = .post ∧ path = "/api/subscribe")) :
    ∃ status headers, Elsewhere method path status headers := by
  by_cases hhealth : path = "/health-check"
  · by_cases hmethod : method = .get ∨ method = .head
    · exact ⟨_, _, .alive hhealth hmethod⟩
    · exact ⟨_, _, .healthOnly hhealth hmethod⟩
  by_cases hsubscribe : path = "/api/subscribe"
  · exact ⟨_, _, .subscribeOnly hsubscribe fun hmethod => hother ⟨hmethod, hsubscribe⟩⟩
  · exact ⟨_, _, .unknown hhealth hsubscribe⟩

/-- The route of a request that is in the table sends back what the table says. -/
theorem handle {request : Request}
    (h : Elsewhere request.method request.uri.path status headers) (service : Service)
    (moment : Moment) (store : Store) :
    service.handle moment request store = (.plain ⟨status, headers, ""⟩, store) := by
  have hdistinct : "/api/subscribe" ≠ "/health-check" := by decide
  unfold Service.handle Route.of Route.healthPath Route.subscribePath
  cases h with
  | alive hpath hmethod =>
    rw [if_pos hpath, if_pos hmethod]
    rfl
  | healthOnly hpath hmethod =>
    rw [if_pos hpath, if_neg hmethod]
    rfl
  | subscribeOnly hpath hmethod =>
    rw [if_neg (hpath ▸ hdistinct), if_pos hpath, if_neg hmethod]
    rfl
  | unknown hhealth hsubscribe =>
    rw [if_neg hhealth, if_neg hsubscribe]
    rfl

/-- The responses of the table carry no id before the layers put one on. -/
theorem id?_eq_none (h : Elsewhere method path status headers) :
    (⟨status, headers, ""⟩ : Response).id? = none :=
  Header.first?_eq_none_iff.mpr
    (by cases h <;> simp [Header.ofText, Response.requestIdName])

end Elsewhere

/-- The method of a request is the one that was named, and its path is written in its target. -/
theorem Request.ofParts_spells {name : String} {target : List UInt8}
    {fields : List (String × List UInt8)} {body : Body} {request : Request}
    (h : Request.ofParts name target fields body = .ok request) :
    request.method = ⟨name⟩ ∧ Uri.Spells target (Utf8.encode request.uri.path.toList) := by
  unfold Request.ofParts at h
  split at h
  · cases h
  next method hmethod =>
    split at h
    · cases h
    next uri huri =>
      split at h
      · cases h
      next =>
        obtain rfl := Except.ok.inj h
        have hname : method = ⟨name⟩ := by
          unfold Method.ofText? at hmethod
          split at hmethod
          · exact (Option.some.inj hmethod).symm
          · cases hmethod
        exact ⟨hname, Uri.ofBytes_spells huri⟩

namespace Service

/-- Only a submission touches the store. Whatever its target, its fields and its body, any other
request leaves the store exactly as it was, failures that wait included, and is answered as the
table says for its method and for the path that is written in its target, by every service over
every store. -/
theorem store_untouched_elsewhere (name : String) (target : List UInt8)
    (fields : List (String × List UInt8)) (body : Body) (request : Request)
    (hrequest : Request.ofParts name target fields body = .ok request)
    (hother : ¬ (name = "POST" ∧ request.uri.path = "/api/subscribe")) :
    Uri.Spells target (Utf8.encode request.uri.path.toList) ∧
      ∃ status headers, Elsewhere ⟨name⟩ request.uri.path status headers ∧
        (∀ status' headers', Elsewhere ⟨name⟩ request.uri.path status' headers' →
          status' = status ∧ headers' = headers) ∧
        ∀ (service : Service) (moment : Moment) (store : Store),
          (service.answer moment request store).2 = store ∧
          (service.answer moment request store).1.response =
            ⟨status, headers ++ [⟨"x-request-id", request.responseId moment⟩], ""⟩ := by
  obtain ⟨hmethod, hspells⟩ := Request.ofParts_spells hrequest
  have hnot : ¬ (request.method = .post ∧ request.uri.path = "/api/subscribe") := by
    rintro ⟨hpost, hpath⟩
    exact hother ⟨congrArg Method.name (hmethod.symm.trans hpost), hpath⟩
  obtain ⟨status, headers, htable⟩ := Elsewhere.exists_of_other hnot
  refine ⟨hspells, status, headers, hmethod ▸ htable, ?_, ?_⟩
  · intro status' headers' htable'
    exact htable.unique (hmethod ▸ htable')
  · intro service moment store
    rw [answer_eq, htable.handle service moment store]
    exact ⟨rfl, Response.withRequestId_of_id?_eq_none htable.id?_eq_none⟩

/-- A percent-encoded letter, a slash too many and a path of the route that is written in a query
lead nowhere, over a store with a failure that waits. -/
theorem store_untouched_elsewhere_other_spelling :
    let body : Body := ⟨"[\"a@b\"]".toUTF8.toList, none⟩
    let request : Request :=
      ⟨.post, ⟨none, none, "/api/subscrib%65/", some "/api/subscribe"⟩, [], body⟩
    let store : Store :=
      ⟨.server, ⟨[("waitlist", ⟨some [], []⟩)], 0, some ⟨"upsert", "", ""⟩, none⟩⟩
    let service : Service :=
      ⟨⟨⟨"postgres", "", 5432, "localhost", "waitlist", .disable⟩, false⟩, .minimal⟩
    let answer := service.answer ⟨"", "", "", ""⟩ request store
    Request.ofParts "POST" "/api/subscrib%65/?/api/subscribe".toUTF8.toList [] body =
        .ok request ∧
      answer.2 = store ∧ answer.1.response.status = 404 := by
  intro body request store service answer
  have hrequest : Request.ofParts "POST" "/api/subscrib%65/?/api/subscribe".toUTF8.toList [] body =
      .ok request := by decide +kernel
  obtain ⟨_, status, headers, _, hunique, hanswer⟩ := store_untouched_elsewhere "POST" _ [] body
    request hrequest (by decide)
  obtain ⟨rfl, rfl⟩ := hunique 404 [] (.unknown (by decide) (by decide))
  obtain ⟨hstore, hresponse⟩ := hanswer service ⟨"", "", "", ""⟩ store
  exact ⟨hrequest, hstore, by rw [hresponse]⟩

end Service

end WaitingList
