import WaitingList.Proofs.Submission.Completeness
import WaitingList.Proofs.Submission.Failure

namespace WaitingList.Submission

open Grammar

namespace Reader

/-- From a state, the rest of a body is read up to a fault, which concerns the shape of the body or
does not. -/
def FailsBy (shape : Bool) (reader : Reader) (t : List UInt8) : Prop :=
  ∃ cause, reader.Fails t cause ∧ cause.concernsShape = shape

section

variable {shape : Bool} {reader next : Reader} {place : Place} {seen : Seen} {b : UInt8}
  {t u v w r : List UInt8} {found : List Given} {given : Given}

theorem FailsBy.stop {stop : Stop} (hstep : reader.step b = .error stop)
    (hshape : stop.cause.concernsShape = shape) : reader.FailsBy shape (b :: t) :=
  ⟨_, .stop hstep, hshape⟩

theorem FailsBy.step (hstep : reader.step b = .ok next) (h : next.FailsBy shape t) :
    reader.FailsBy shape (b :: t) := by
  obtain ⟨cause, hfails, hshape⟩ := h
  exact ⟨cause, .step hstep hfails, hshape⟩

theorem Comes.failsBy (hcomes : reader.Comes (At next u) t) (h : next.FailsBy shape u) :
    reader.FailsBy shape t := by
  obtain ⟨cause, hfails, hshape⟩ := h
  refine ⟨cause, hcomes.fails ?_, hshape⟩
  rintro _ _ ⟨rfl, rfl⟩
  exact hfails

-- Where an address is needed, what else stands there fails by itself.

private theorem failsBy_of_word {rest : List UInt8} {value : Found}
    (hconclude : conclude place value = .error ⟨.wrongKind value place.needed, 0⟩) :
    (word place b rest value).FailsBy true (b :: (rest ++ r)) := by
  induction rest generalizing b with
  | nil => exact .stop (by simpa [step, stepWord] using hconclude) rfl
  | cons c rest ih => exact .step (by simp [step, stepWord]) ih

private theorem concernsShape_numberCause {value : NumberValue}
    (hrange : value.overflows = false) :
    (numberCause place value).concernsShape = value.inRange := by
  unfold numberCause NumberValue.inRange
  rw [hrange]
  cases Number.ofValue? value <;> rfl

/-- A number fails for what it is worth in the end. One that its power puts out of range does so
before it ends, and then nothing is asked of what is left. -/
private theorem failsBy_of_worth? {phase : NumberPhase} {value last : NumberValue}
    (hworth : phase.worth? value t = some last) (hplain : phase ≠ .power → value.power = 0)
    (hrange : value.overflows = false) :
    (number place phase value).FailsBy last.inRange t := by
  induction t generalizing phase value with
  | nil =>
    rw [NumberPhase.worth?] at hworth
    split at hworth
    next hcomplete =>
      obtain rfl := Option.some.inj hworth
      have hfinish : (number place phase value).finish = .error (numberCause place value) := by
        simp [finish, hcomplete]
      exact ⟨_, .finish hfinish, concernsShape_numberCause hrange⟩
    next => cases hworth
  | cons b t ih =>
    rw [NumberPhase.worth?] at hworth
    split at hworth
    next next hnext =>
      by_cases hover : (value.push next b).overflows = true
      · obtain rfl : next = .power := by
          by_contra hne
          have hpower := NumberPhase.power_push_eq_zero hplain hnext hne
          rw [NumberValue.overflows_of_power_eq_zero hpower] at hover
          cases hover
        have hlast := NumberPhase.overflows_of_worth? hover hworth
        have hstep : (number place phase value).step b = .error (.behind .numberOutOfRange) := by
          simp [step, stepNumber, hnext, hover]
        exact .stop hstep (by simp [NumberValue.inRange, hlast, Stop.behind, Cause.concernsShape])
      · have hwithin : (value.push next b).overflows = false := by simpa using hover
        have hstep : (number place phase value).step b =
            .ok (number place next (value.push next b)) := by
          simp [step, stepNumber, hnext, hwithin]
        exact .step hstep (ih hworth (NumberPhase.power_push_eq_zero hplain hnext) hwithin)
    next hnext =>
      obtain rfl := Option.some.inj hworth
      have hstep : (number place phase value).step b = .error ⟨numberCause place value, 1⟩ := by
        simp [step, stepNumber, hnext]
      exact .stop hstep (concernsShape_numberCause hrange)
    next => cases hworth

theorem failsBy_of_number {value : NumberValue} (hawaits : reader.Awaits place)
    (hworth : numberWorth? t = some value) : reader.FailsBy value.inRange t := by
  cases t with
  | nil => cases hworth
  | cons b t =>
    obtain ⟨phase, hfirst, hworth⟩ := Option.bind_eq_some_iff.mp hworth
    obtain ⟨hblank, hword, hclosing, hbracket⟩ := apart_of_first hfirst
    have hstep : reader.step b = .ok (number place phase (NumberValue.empty.push phase b)) := by
      rw [hawaits b hblank hclosing fun _ => hbracket, begin, hword, hfirst]
    have hpower := NumberPhase.power_first hfirst
    have hrange := NumberValue.overflows_of_power_eq_zero hpower
    exact .step hstep (failsBy_of_worth? hworth (fun _ => hpower) hrange)

theorem failsBy_of_excessive (hawaits : reader.Awaits place) (hexcessive : Excessive t) :
    reader.FailsBy false t := by
  obtain ⟨hworth, hrange⟩ := hexcessive
  exact hrange ▸ failsBy_of_number hawaits hworth

theorem failsBy_of_unfit (hawaits : reader.Awaits place) (hunfit : Unfit place t) :
    reader.FailsBy true t := by
  cases hunfit with
  | word hword =>
    simp only [List.mem_cons, List.not_mem_nil, or_false] at hword
    have hconclude (flag : Bool) : conclude place (.boolean flag) =
        .error ⟨.wrongKind (.boolean flag) place.needed, 0⟩ := by
      cases place <;> rfl
    rcases hword with rfl | rfl
    · have hstep := hawaits 0x74 rfl (by decide) fun _ => by decide
      exact .step hstep (failsBy_of_word (hconclude true))
    · have hstep := hawaits 0x66 rfl (by decide) fun _ => by decide
      exact .step hstep (failsBy_of_word (hconclude false))
  | number hworth hrange => exact hrange ▸ failsBy_of_number hawaits hworth
  | list hplace => exact .stop (hawaits _ rfl (by decide) (absurd · hplace)) rfl
  | object hplace => exact .stop (hawaits _ rfl (by decide) (absurd · hplace)) rfl

private theorem failsBy_of_text {state : TextState} {bytes : List UInt8} {text : List Char}
    (hreads : state.Reads t bytes r) (hbytes : bytes = Utf8.encode text) :
    (Reader.text .whole state).FailsBy true t := by
  induction hreads with
  | @closed state b _ _ hnext =>
    have hstep : (Reader.text .whole state).step b =
        .error ⟨.wrongKind (.text (String.ofList text)) .submission, 0⟩ := by
      simp only [step, hnext, hbytes, readText_encode]
      rfl
    exact .stop hstep rfl
  | more hnext _ ih => exact .step (by simp [step, hnext]) (ih hbytes)

/-- Only a list or an object can be the whole body, not what is an address elsewhere. -/
private theorem failsBy_of_address (haddress : Address t given r) : start.FailsBy true t := by
  cases haddress with
  | null => exact .step rfl (failsBy_of_word rfl)
  | text hchars => exact .step rfl (failsBy_of_text (TextState.reads_start_iff.mpr hchars) rfl)

/-- Behind an address and a comma nothing can save the body. -/
private theorem failsBy_elementComma : elementComma.FailsBy false t := by
  induction t with
  | nil => exact ⟨_, .finish rfl, rfl⟩
  | cons b t ih =>
    have hstep : elementComma.step b = .ok elementComma ∨
        ∃ fault, elementComma.step b = .error (.behind fault) := by
      simp only [step]
      split
      · exact .inl rfl
      · split <;> exact .inr ⟨_, rfl⟩
    rcases hstep with hstay | ⟨fault, hstop⟩
    · exact .step hstay ih
    · exact .stop hstop rfl

private theorem failsBy_repeated : repeated.FailsBy true t := by
  induction t with
  | nil => exact ⟨_, .finish rfl, rfl⟩
  | cons b t ih =>
    by_cases hblank : isBlank b = true
    · exact .step (if_pos hblank) ih
    · exact .stop (if_neg hblank) rfl

private theorem comes_repeated_of_naming (hnaming : Naming t u) (hseen : seen ≠ none) :
    (memberComma seen).Comes (At repeated u) t := by
  have htake : takeName seen "email".toList = repeated := by
    cases seen with
    | none => exact absurd rfl hseen
    | some before => rfl
  exact comes_of_naming hnaming (htake ▸ comes_at)

/-- Behind members that give an address the name `email` is one too many. -/
private theorem comes_repeated (hleading : Leading t found u) (hnaming : Naming u v)
    (hgiven : seen ≠ none ∨ found ≠ []) : ∃ w, (memberComma seen).Comes (At repeated w) t := by
  induction hleading generalizing seen with
  | nil => exact ⟨v, comes_repeated_of_naming hnaming (by simpa using hgiven)⟩
  | cons hmember _ ih =>
    cases hmember with
    | email hbefore hname hafter hblanks haddress hend =>
      cases seen with
      | some before =>
        exact ⟨_, comes_repeated_of_naming ⟨hbefore, hname⟩ (Option.some_ne_none before)⟩
      | none =>
        obtain ⟨w, hrest⟩ := ih hnaming (.inl (Option.some_ne_none _))
        have hmember := Member.email hbefore hname hafter hblanks haddress hend
        exact ⟨w, comes_of_member (apart_of_at trivial) hmember rfl (.step rfl hrest)⟩
    | other hbefore hname hother hafter hjson =>
      obtain ⟨w, hrest⟩ := ih hnaming hgiven
      have hmember := Member.other hbefore hname hother hafter hjson
      exact ⟨w, comes_of_member (apart_of_at trivial) hmember (List.append_nil _).symm
        (.step rfl hrest)⟩

section Body

variable {body : List UInt8}

private theorem comes_of_body (hbefore : Blanks body t) : start.Comes (At start t) body :=
  comes_of_blanks (fun _ => skip_start) hbefore comes_at

private theorem comes_of_list (hbefore : Blanks body (0x5B :: t)) (hblanks : Blanks t u) :
    start.Comes (At listOpened u) body := by
  have hlist : listOpened.Comes (At listOpened u) t :=
    comes_of_blanks (fun b hblank => by simp [step, hblank]) hblanks comes_at
  exact comes_of_token (fun _ => skip_start) rfl hbefore hlist

private theorem comes_of_object (hapart : next.Apart) (hbefore : Blanks body (0x7B :: t))
    (h : (memberComma none).Comes (At next u) t) : start.Comes (At next u) body :=
  comes_of_token (fun _ => skip_start) rfl hbefore (comes_objectOpened (apart_of_at hapart) h)

private theorem comes_of_leading_email {x : List UInt8} (hbefore : Blanks body (0x7B :: t))
    (hleading : Leading t [] u) (hnaming : Naming u v) (hafter : Blanks v (0x3A :: w))
    (hblanks : Blanks w x) : start.Comes (At email x) body := by
  have hemail := comes_of_email hnaming hafter hblanks comes_at
  have hmembers : (memberComma none).Comes (At email x) t :=
    comes_of_leading (apart_of_at trivial) hleading (by simp) hemail
  exact comes_of_object (by trivial) hbefore hmembers

theorem failsBy_of_misshapen (h : Misshapen body) : start.FailsBy true body := by
  cases h with
  | whole hbefore hunfit =>
    exact (comes_of_body hbefore).failsBy (failsBy_of_unfit awaits_start hunfit)
  | address hbefore haddress => exact (comes_of_body hbefore).failsBy (failsBy_of_address haddress)
  | element hbefore hblanks hunfit =>
    exact (comes_of_list hbefore hblanks).failsBy (failsBy_of_unfit awaits_listOpened hunfit)
  | @email t u v w x given hbefore hleading hnaming hafter hblanks hunfit =>
    cases given with
    | nil =>
      have hcomes := comes_of_leading_email hbefore hleading hnaming hafter hblanks
      exact hcomes.failsBy (failsBy_of_unfit awaits_email hunfit)
    | cons first rest =>
      -- The name is one too many already, so its value is not looked at.
      obtain ⟨y, hcomes⟩ := comes_repeated hleading hnaming (.inr (by simp))
      exact (comes_of_object (by trivial) hbefore hcomes).failsBy failsBy_repeated
  | repeated hbefore hleading hgiven hnaming =>
    obtain ⟨w, hcomes⟩ := comes_repeated hleading hnaming (.inr hgiven)
    exact (comes_of_object (by trivial) hbefore hcomes).failsBy failsBy_repeated

theorem failsBy_of_mistaken (h : Mistaken body) : start.FailsBy false body := by
  cases h with
  | whole hbefore hexcessive =>
    exact (comes_of_body hbefore).failsBy (failsBy_of_excessive awaits_start hexcessive)
  | element hbefore hblanks hexcessive =>
    have hfails := failsBy_of_excessive awaits_listOpened hexcessive
    exact (comes_of_list hbefore hblanks).failsBy hfails
  | @further t u v w given hbefore hblanks haddress hcomma =>
    have hcomes : (close .element given).Comes (At elementComma w) v :=
      comes_of_token (fun b hblank => by simp [close, step, hblank]) rfl hcomma comes_at
    have hlist := comes_of_address (by decide) awaits_listOpened haddress hcomes
    exact (comes_of_list hbefore hblanks).failsBy (hlist.failsBy failsBy_elementComma)
  | email hbefore hleading hnaming hafter hblanks hexcessive =>
    have hcomes := comes_of_leading_email hbefore hleading hnaming hafter hblanks
    exact hcomes.failsBy (failsBy_of_excessive awaits_email hexcessive)

private theorem misshapen_of_remainder (h : start.Remainder .misfits body) : Misshapen body := by
  rcases h with ⟨t, hbrace, hobject⟩ | ⟨t, hbracket, hlist⟩ | ⟨t, hbefore, hwhole | ⟨_, hunfit⟩⟩
  · rcases hobject with ⟨_, hgiven⟩ | ⟨_, _, _, _, _, hgiven⟩ | ⟨_, hstops⟩
    · cases hgiven
    · cases hgiven
    · obtain ⟨found, u, v, hleading, hnaming, hseen | hgiven | hunfit⟩ := hstops
      · exact absurd rfl hseen
      · exact .repeated hbrace hleading hgiven hnaming
      · obtain ⟨w, hafter, x, hblanks, hunfit⟩ := hunfit
        exact .email hbrace hleading hnaming hafter hblanks hunfit
  · rcases hlist with ⟨_, hgiven⟩ | ⟨u, hblanks, ⟨_, _, _, _, hgiven⟩ | ⟨_, hunfit⟩⟩
    · cases hgiven
    · cases hgiven
    · exact .element hbracket hblanks hunfit
  · obtain ⟨u, found, haddress, _⟩ := hwhole
    exact .address hbefore haddress
  · exact .whole hbefore hunfit

end Body

end

end Reader

variable {body : List UInt8}

private theorem read_eq_error_iff_failsBy {shape : Bool} :
    (∃ fault, read body = .error fault ∧ fault.cause.concernsShape = shape) ↔
      Reader.FailsBy shape .start body := by
  constructor
  · rintro ⟨fault, hread, hshape⟩
    exact ⟨fault.cause, read_eq_error_iff_fails.mp ⟨fault, hread, rfl⟩, hshape⟩
  · rintro ⟨cause, hfails, hshape⟩
    obtain ⟨fault, hread, rfl⟩ := read_eq_error_iff_fails.mpr hfails
    exact ⟨fault, hread, hshape⟩

/-- A body is refused for its shape exactly if what it begins with is of the wrong shape. Nothing is
asked of what follows there, which may be no JSON at all. -/
theorem read_concernsShape_iff :
    (∃ fault, read body = .error fault ∧ fault.cause.concernsShape = true) ↔ Misshapen body := by
  rw [read_eq_error_iff_failsBy]
  constructor
  · rintro ⟨cause, hfails, hshape⟩
    exact Reader.misshapen_of_remainder (hfails.remainder hshape)
  · exact Reader.failsBy_of_misshapen

theorem read_of_mistaken (h : Mistaken body) :
    ∃ fault, read body = .error fault ∧ fault.cause.concernsShape = false :=
  read_eq_error_iff_failsBy.mpr (Reader.failsBy_of_mistaken h)

end WaitingList.Submission
