import WaitingList.Proofs.Submission.Run
import WaitingList.Proofs.Submission.Shape
import WaitingList.Proofs.Submission.Text

namespace WaitingList.Submission

open Grammar

/-- What the reader awaits between brackets unless they close at once. -/
def Frame.first : Frame → Ignored
  | list => .value
  | object => .name

namespace Reader

/-- A state in which no member is being read and none has just been read. -/
def Apart : Reader → Prop
  | ignored _ _ _ | member _ | memberComma _ => False
  | _ => True

section

variable {goal : Reader → List UInt8 → Prop} {reader : Reader} {given : Given} {seen : Seen}
  {frames outer : List Frame} {b : UInt8} {t u r : List UInt8}

theorem comes_of_blanks (hskip : ∀ b, isBlank b = true → reader.step b = .ok reader)
    (hblanks : Blanks t u) (h : reader.Comes goal u) : reader.Comes goal t := by
  induction hblanks with
  | nil => exact h
  | cons hblank _ ih => exact .step (hskip _ (isBlank_iff.mpr hblank)) (ih h)

/-- A state in which a byte may stand whatever comes before it reads on behind the byte. -/
theorem comes_of_token {next : Reader}
    (hskip : ∀ b, isBlank b = true → reader.step b = .ok reader) (hstep : reader.step b = .ok next)
    (hblanks : Blanks t (b :: u)) (h : next.Comes goal u) : reader.Comes goal t :=
  comes_of_blanks hskip hblanks (.step hstep h)

private theorem skip_afterIgnored (hblank : isBlank b = true) :
    (Reader.afterIgnored frames seen).step b = .ok (Reader.afterIgnored frames seen) := by
  cases frames <;> simp [Reader.afterIgnored, step, stepIgnored, hblank]

private theorem skip_ignored {inner : Ignored}
    (hinner : inner ∈ [Ignored.value, .opened, .after, .name, .colon]) (hblank : isBlank b = true) :
    (ignored inner frames seen).step b = .ok (ignored inner frames seen) := by
  simp only [List.mem_cons, List.not_mem_nil, or_false] at hinner
  rcases hinner with rfl | rfl | rfl | rfl | rfl <;> simp [step, stepIgnored, hblank]

private theorem comes_of_word {rest : List UInt8}
    (h : (Reader.afterIgnored frames seen).Comes goal r) :
    (ignored (.word b rest) frames seen).Comes goal (b :: (rest ++ r)) := by
  induction rest generalizing b with
  | nil => exact .step (by simp [step, stepIgnored]) h
  | cons c rest ih => exact .step (by simp [step, stepIgnored]) ih

private theorem comes_of_closes {isName : Bool} {phase : IgnoredPhase} (hcloses : phase.Closes t r)
    (h : (if isName then ignored .colon frames seen
      else Reader.afterIgnored frames seen).Comes goal r) :
    (ignored (.text isName phase) frames seen).Comes goal t := by
  induction hcloses with
  | closed hnext => exact .step (by simp [step, stepIgnored, hnext]) h
  | more hnext _ ih => exact .step (by simp [step, stepIgnored, hnext]) (ih h)

private theorem step_number_of_ended {phase : NumberPhase} (hnext : phase.next b = .ended) :
    (ignored (.number phase) frames seen).step b = (Reader.afterIgnored frames seen).step b := by
  cases frames <;> simp [Reader.afterIgnored, step, stepIgnored, stepAfter, hnext]

private theorem ended_of_step_afterIgnored {phase : NumberPhase} {next : Reader}
    (hcomplete : phase.isComplete = true)
    (hstep : (Reader.afterIgnored frames seen).step b = .ok next) : phase.next b = .ended := by
  have hb : isBlank b = true ∨ b = 0x2C ∨ b = 0x5D ∨ b = 0x7D := by
    rcases frames with _ | ⟨_ | _, _⟩ <;>
      simp only [Reader.afterIgnored, List.isEmpty_nil, List.isEmpty_cons, if_true, step,
        stepIgnored, stepAfter, stepMember] at hstep <;> grind
  apply NumberPhase.ended_of_delimiter hcomplete
  simpa [isBlank_iff, or_assoc] using hb

/-- What begins a number begins nothing else. -/
theorem apart_of_first {phase : NumberPhase} (hfirst : NumberPhase.first? b = some phase) :
    isBlank b = false ∧ word? b = none ∧ b ≠ 0x5D ∧ b ≠ 0x5B ∧ b ≠ 0x7B := by
  have hrange : 0x2D ≤ b ∧ b ≤ 0x39 := by
    unfold NumberPhase.first? isDigit at hfirst
    grind
  unfold isBlank word?
  grind

section Apart

-- A number and a frame that closes at once are judged by the byte behind them, so a run has to go
-- on from there.
variable (hgoal : ∀ reader t, goal reader t → reader.Apart)

include hgoal

/-- A number that may end is ended by whatever may follow a value. -/
private theorem comes_of_complete {phase : NumberPhase} (hcomplete : phase.isComplete = true)
    (h : (Reader.afterIgnored frames seen).Comes goal r) :
    (ignored (.number phase) frames seen).Comes goal r := by
  cases h with
  | here hmet =>
    have hapart := hgoal _ _ hmet
    cases frames <;> cases hapart
  | step hstep hrest =>
    have hended := ended_of_step_afterIgnored hcomplete hstep
    exact .step ((step_number_of_ended hended).trans hstep) hrest

private theorem comes_of_ends {phase : NumberPhase} (hends : phase.Ends t r)
    (h : (Reader.afterIgnored frames seen).Comes goal r) :
    (ignored (.number phase) frames seen).Comes goal t := by
  induction hends with
  | ended hcomplete => exact comes_of_complete hgoal hcomplete h
  | more hnext _ ih => exact .step (by simp [step, stepIgnored, hnext]) (ih h)

/-- A state that reads whatever another one does, up to blanks before it, comes to what that one
comes to. -/
private theorem comes_of_steps {other : Reader} (hother : ¬ other.Apart)
    (hsteps : ∀ b next, other.step b = .ok next →
      reader.step b = .ok next ∨ next = other ∧ reader.step b = .ok reader)
    (h : other.Comes goal t) : reader.Comes goal t := by
  induction t with
  | nil =>
    cases h with
    | here hmet => exact absurd (hgoal _ _ hmet) hother
  | cons b t ih =>
    cases h with
    | here hmet => exact absurd (hgoal _ _ hmet) hother
    | @step _ next _ _ hstep hrest =>
      rcases hsteps b next hstep with hsame | ⟨rfl, hstay⟩
      · exact .step hsame hrest
      · exact .step hstay (ih hrest)

omit hgoal in
private theorem step_opened_of_first {frame : Frame} {next : Reader} (hblank : isBlank b = false)
    (hstep : (ignored frame.first (frame :: outer) seen).step b = .ok next) :
    (ignored .opened (frame :: outer) seen).step b = .ok next := by
  cases frame with
  | list =>
    have hclosing : b ≠ 0x5D := by
      rintro rfl
      cases hstep
    simpa [Frame.first, step, stepIgnored, hblank, stepOpened, hclosing] using hstep
  | object =>
    have hclosing : b ≠ 0x7D := by
      rintro rfl
      cases hstep
    simpa [Frame.first, step, stepIgnored, hblank, stepOpened, hclosing] using hstep

private theorem comes_opened {frame : Frame}
    (h : (ignored frame.first (frame :: outer) seen).Comes goal t) :
    (ignored .opened (frame :: outer) seen).Comes goal t := by
  refine comes_of_steps hgoal (by simp [Apart]) (fun b next hstep => ?_) h
  by_cases hblank : isBlank b = true
  · have hfirst : frame.first ∈ [Ignored.value, .opened, .after, .name, .colon] := by
      cases frame <;> simp [Frame.first]
    rw [skip_ignored hfirst hblank] at hstep
    exact .inr ⟨(Except.ok.inj hstep).symm, skip_ignored (by simp) hblank⟩
  · exact .inl (step_opened_of_first (by simpa using hblank) hstep)

private theorem comes_of_number (hnumber : Grammar.Number t r)
    (h : (Reader.afterIgnored frames seen).Comes goal r) :
    (ignored .value frames seen).Comes goal t := by
  obtain ⟨b, u, phase, rfl, hfirst, hends⟩ := NumberPhase.number_iff.mp hnumber
  obtain ⟨hblank, hword, _⟩ := apart_of_first hfirst
  refine .step ?_ (comes_of_ends hgoal hends h)
  simp [step, stepIgnored, beginIgnored, hblank, hword, hfirst]

/-- What a run comes to from behind a part of JSON that is ignored, it comes to from before it. -/
def Passes (goal : Reader → List UInt8 → Prop) (seen : Seen) (t r : List UInt8) : Part → Prop
  | .value | .element => ∀ frames, (Reader.afterIgnored frames seen).Comes goal r →
      (ignored .value frames seen).Comes goal t
  | .elements => ∀ outer, (ignored .after (.list :: outer) seen).Comes goal r →
      (ignored .value (.list :: outer) seen).Comes goal t
  | .member | .members => ∀ outer, (ignored .after (.object :: outer) seen).Comes goal r →
      (ignored .name (.object :: outer) seen).Comes goal t

/-- The reader passes all JSON that may be ignored. The run is built along the derivation, from
behind each part to before it, so no stack of frames has to be guessed. -/
theorem passes_of_json {part : Part} (hjson : Json Skipped part t r) :
    Passes goal seen t r part := by
  induction hjson with
  | @word word r hword =>
    intro frames h
    simp only [List.mem_cons, List.not_mem_nil, or_false] at hword
    rcases hword with rfl | rfl | rfl
    · exact .step rfl (comes_of_word h)
    · exact .step rfl (comes_of_word h)
    · exact .step rfl (comes_of_word h)
  | number hnumber => exact fun frames h => comes_of_number hgoal hnumber h
  | text htext =>
    intro frames h
    exact .step rfl (comes_of_closes (IgnoredPhase.closes_plain_iff.mpr htext) h)
  | emptyList hblanks =>
    intro frames h
    refine .step rfl (comes_of_token (fun b => skip_ignored (by simp)) rfl hblanks h)
  | list _ ih =>
    intro frames h
    exact .step rfl (comes_opened hgoal (ih frames (.step rfl h)))
  | emptyObject hblanks =>
    intro frames h
    exact .step rfl (comes_of_token (fun b => skip_ignored (by simp)) rfl hblanks h)
  | object _ ih =>
    intro frames h
    exact .step rfl (comes_opened hgoal (ih frames (.step rfl h)))
  | element hbefore _ hafter ih =>
    intro frames h
    have hvalue := ih frames (comes_of_blanks (fun b => skip_afterIgnored) hafter h)
    exact comes_of_blanks (fun b => skip_ignored (by simp)) hbefore hvalue
  | lastElement _ ih => exact fun outer h => ih (.list :: outer) h
  | elements _ _ ih ihrest =>
    exact fun outer h => ih (.list :: outer) (.step rfl (ihrest outer h))
  | member hbefore hname hafter _ ih =>
    intro outer h
    have hcolon : (ignored .colon (.object :: outer) seen).Comes goal _ :=
      comes_of_token (fun b => skip_ignored (by simp)) rfl hafter (ih (.object :: outer) h)
    have htext : (ignored (.text true .plain) (.object :: outer) seen).Comes goal _ :=
      comes_of_closes (IgnoredPhase.closes_plain_iff.mpr hname) hcolon
    exact comes_of_token (fun b => skip_ignored (by simp)) rfl hbefore htext
  | lastMember _ ih => exact ih
  | members _ _ ih ihrest =>
    exact fun outer h => ih outer (.step rfl (ihrest outer h))

end Apart

private theorem comes_of_null {place : Place} {rest : List UInt8} (hplace : place ≠ .whole)
    (h : (close place none).Comes goal r) :
    (word place b rest .null).Comes goal (b :: (rest ++ r)) := by
  induction rest generalizing b with
  | nil =>
    refine .step ?_ h
    cases place with
    | whole => exact absurd rfl hplace
    | element => simp [step, stepWord, conclude]
    | member => simp [step, stepWord, conclude]
  | cons c rest ih => exact .step (by simp [step, stepWord]) ih

theorem readText_encode (text : List Char) : readText (Utf8.encode text) = .ok text := by
  rw [readText, Utf8.decode?_eq_some_iff.mpr rfl]

private theorem comes_of_text {place : Place} {state : TextState} {bytes : List UInt8}
    {text : List Char} (hplace : place ≠ .whole) (hreads : state.Reads t bytes r)
    (hbytes : bytes = Utf8.encode text)
    (h : (close place (some (String.ofList text))).Comes goal r) :
    (Reader.text place state).Comes goal t := by
  induction hreads with
  | closed hnext =>
    refine .step ?_ h
    simp only [step, hnext, hbytes, readText_encode]
    cases place with
    | whole => exact absurd rfl hplace
    | element => rfl
    | member => rfl
  | more hnext _ ih => exact .step (by simp [step, hnext]) (ih hbytes h)

theorem comes_of_name {state : TextState} {bytes : List UInt8} {text : List Char}
    (hreads : state.Reads t bytes r) (hbytes : bytes = Utf8.encode text)
    (h : (takeName seen text).Comes goal r) : (name seen state).Comes goal t := by
  induction hreads with
  | closed hnext =>
    refine .step ?_ h
    simp only [step, hnext, hbytes, readText_encode]
    rfl
  | more hnext _ ih => exact .step (by simp [step, hnext]) (ih hbytes h)

/-- In front of a place every byte begins a value there, but for blanks, the bracket that closes a
list, and the brackets that open the whole body. -/
def Awaits (place : Place) (reader : Reader) : Prop :=
  ∀ b, isBlank b = false → b ≠ 0x5D → (place = .whole → b ≠ 0x5B ∧ b ≠ 0x7B) →
    reader.step b = begin place b

theorem awaits_start : start.Awaits .whole := by
  intro b hblank _ hbracket
  obtain ⟨hlist, hobject⟩ := hbracket rfl
  simp [step, hblank, hlist, hobject]

theorem awaits_listOpened : listOpened.Awaits .element := by
  intro b hblank hclosing _
  simp [step, hblank, hclosing]

theorem awaits_email : email.Awaits .member := by
  intro b hblank _ _
  simp [step, hblank]

/-- Where an address is needed, the reader reads what the grammar has for one. -/
theorem comes_of_address {place : Place} {found : Given} (hplace : place ≠ .whole)
    (hawaits : reader.Awaits place) (haddress : Address t found r)
    (h : (close place found).Comes goal r) : reader.Comes goal t := by
  cases haddress with
  | null => exact .step (hawaits _ rfl (by decide) (absurd · hplace)) (comes_of_null hplace h)
  | text hchars =>
    exact .step (hawaits _ rfl (by decide) (absurd · hplace))
      (comes_of_text hplace (TextState.reads_start_iff.mpr hchars) rfl h)

private theorem skip_colon {isEmail : Bool} (hblank : isBlank b = true) :
    (colon isEmail seen).step b = .ok (colon isEmail seen) := by
  simp [step, hblank]

private theorem comes_of_memberComma {text : List Char} (hbefore : Blanks t (quote :: u))
    (hname : Chars u text r) (h : (takeName seen text).Comes goal r) :
    (memberComma seen).Comes goal t := by
  have hnamed := comes_of_name (TextState.reads_start_iff.mpr hname) rfl h
  exact comes_of_token (fun b hblank => by simp [step, hblank]) rfl hbefore hnamed

theorem comes_of_naming (hnaming : Naming t u) (h : (takeName seen "email".toList).Comes goal u) :
    (memberComma seen).Comes goal t := by
  obtain ⟨hbefore, hname⟩ := hnaming
  exact comes_of_memberComma hbefore hname h

/-- The first name `email` and a colon take the reader to where it awaits the address. -/
theorem comes_of_email {v w : List UInt8} (hnaming : Naming t u) (hafter : Blanks u (0x3A :: v))
    (hblanks : Blanks v w) (h : email.Comes goal w) : (memberComma none).Comes goal t := by
  have hemail := comes_of_blanks (fun b hblank => by simp [step, hblank]) hblanks h
  have hcolon : (colon true none).Comes goal u :=
    comes_of_token (fun b => skip_colon) rfl hafter hemail
  exact comes_of_naming hnaming hcolon

private theorem skip_member (hblank : isBlank b = true) :
    (member seen).step b = .ok (member seen) := by
  simp [step, hblank]

private theorem seen_of_append {seen' : Seen} {found : Given}
    (hseen : seen'.toList = seen.toList ++ [found]) : seen = none ∧ seen' = some found := by
  cases seen <;> cases seen' <;> simp_all

/-- The reader reads a member, and keeps the address that it gives. -/
theorem comes_of_member (hgoal : ∀ reader t, goal reader t → reader.Apart) {seen' : Seen}
    {found : List Given} (hmember : Member t found r)
    (hseen : seen'.toList = seen.toList ++ found) (h : (member seen').Comes goal r) :
    (memberComma seen).Comes goal t := by
  cases hmember with
  | email hbefore hname hafter hblanks haddress hend =>
    obtain ⟨rfl, rfl⟩ := seen_of_append hseen
    have hmember : (close .member _).Comes goal _ := comes_of_blanks (fun b => skip_member) hend h
    have hvalue := comes_of_address (by decide) awaits_email haddress hmember
    exact comes_of_email ⟨hbefore, hname⟩ hafter hblanks hvalue
  | other hbefore hname hother hafter hjson =>
    obtain rfl : seen' = seen := by
      cases seen <;> cases seen' <;> simp_all
    have hvalue := passes_of_json hgoal hjson [] h
    have hcolon : (colon false seen').Comes goal _ :=
      comes_of_token (fun b => skip_colon) rfl hafter hvalue
    have htake : takeName seen' _ = colon false seen' := if_neg hother
    rw [← htake] at hcolon
    exact comes_of_memberComma hbefore hname hcolon

private theorem toList_head? {all : List Given} (honce : all.length ≤ 1) :
    all.head?.toList = all := by
  match all, honce with
  | [], _ => rfl
  | [_], _ => rfl

/-- The reader reads members that give an address at most once in all. -/
theorem comes_of_leading (hgoal : ∀ reader t, goal reader t → reader.Apart) {found : List Given}
    (hleading : Leading t found u) (honce : (seen.toList ++ found).length ≤ 1)
    (h : (memberComma (seen.toList ++ found).head?).Comes goal u) :
    (memberComma seen).Comes goal t := by
  induction hleading generalizing seen with
  | nil =>
    cases seen with
    | none => exact h
    | some given => exact h
  | @cons t u _ found rest hmember _ ih =>
    rw [← List.append_assoc] at honce h
    have hfirst : (seen.toList ++ found).length ≤ 1 := by
      rw [List.length_append] at honce
      omega
    have hrest : (memberComma (seen.toList ++ found).head?).Comes goal u :=
      ih (by rwa [toList_head? hfirst]) (by rwa [toList_head? hfirst])
    exact comes_of_member hgoal hmember (toList_head? hfirst) (.step rfl hrest)

/-- A state, and what is left of the body there. -/
def At (next : Reader) (u : List UInt8) (reader : Reader) (t : List UInt8) : Prop :=
  reader = next ∧ t = u

theorem comes_at : reader.Comes (At reader t) t := .here ⟨rfl, rfl⟩

theorem apart_of_at {next : Reader} (hapart : next.Apart) (reader : Reader) (t : List UInt8)
    (hat : At next u reader t) : reader.Apart := by
  obtain ⟨rfl, _⟩ := hat
  exact hapart

private theorem gives_of_comes (h : reader.Comes (At (done given) []) t) :
    reader.Gives t given := by
  refine h.gives ?_
  rintro _ _ ⟨rfl, rfl⟩
  exact .done

private theorem comes_done (hend : Blanks t []) : (done given).Comes (At (done given) []) t :=
  comes_of_blanks (fun b hblank => by simp [step, hblank]) hend comes_at

private theorem comes_of_element (hclosing : Blanks t (0x5D :: r)) (hend : Blanks r []) :
    (close .element given).Comes (At (done given) []) t :=
  comes_of_token (fun b hblank => by simp [close, step, hblank]) rfl hclosing (comes_done hend)

private theorem comes_of_members {found : List Given} (hmembers : Members t found (0x7D :: r))
    (hend : Blanks r []) (honce : found.length ≤ 1) :
    (memberComma none).Comes (At (done found.head?.join) []) t := by
  obtain ⟨u, first, last, hleading, hmember, rfl⟩ := hmembers.exists_leading
  have hfirst : first.length ≤ 1 := by
    rw [List.length_append] at honce
    omega
  have hlast : (first ++ last).head?.toList = first.head?.toList ++ last := by
    rw [toList_head? honce, toList_head? hfirst]
  have hdone : (member (first ++ last).head?).Comes (At (done (first ++ last).head?.join) [])
      (0x7D :: r) := .step rfl (comes_done hend)
  exact comes_of_leading (apart_of_at trivial) hleading hfirst
    (comes_of_member (apart_of_at trivial) hmember hlast hdone)

theorem comes_objectOpened (hgoal : ∀ reader t, goal reader t → reader.Apart)
    (h : (memberComma none).Comes goal t) : objectOpened.Comes goal t := by
  refine comes_of_steps hgoal (by simp [Apart]) (fun b next hstep => ?_) h
  simp only [step] at hstep ⊢
  split at hstep
  next hblank => exact .inr ⟨(Except.ok.inj hstep).symm, if_pos hblank⟩
  next hblank =>
    split at hstep
    next hquote =>
      obtain rfl := eq_of_beq hquote
      exact .inl hstep
    next => split at hstep <;> cases hstep

theorem skip_start (hblank : isBlank b = true) : start.step b = .ok start := by
  simp [step, hblank]

/-- The reader reads an object that gives an address at most once. -/
theorem gives_of_object {body : List UInt8} {found : List Given} (hobject : Object body found)
    (honce : found.length ≤ 1) : start.Gives body found.head?.join := by
  apply gives_of_comes
  cases hobject with
  | empty hbefore h hafter =>
    refine comes_of_token (fun b => skip_start) rfl hbefore ?_
    exact comes_of_token (fun b hblank => by simp [step, hblank]) rfl h (comes_done hafter)
  | members hbefore h hafter =>
    have hdone : (done found.head?.join).Apart := trivial
    have hobject := comes_objectOpened (apart_of_at hdone) (comes_of_members h hafter honce)
    exact comes_of_token (fun b => skip_start) rfl hbefore hobject

/-- The reader reads a list of at most one address. -/
theorem gives_of_listed {body : List UInt8} {found : List Given} (hlisted : Listed body found) :
    start.Gives body found.head?.join := by
  apply gives_of_comes
  have hskip (b : UInt8) (hblank : isBlank b = true) : listOpened.step b = .ok listOpened := by
    simp [step, hblank]
  cases hlisted with
  | empty hbefore h hafter =>
    refine comes_of_token (fun b => skip_start) rfl hbefore ?_
    exact comes_of_token hskip rfl h (comes_done hafter)
  | one hbefore hblanks haddress h hafter =>
    refine comes_of_token (fun b => skip_start) rfl hbefore (comes_of_blanks hskip hblanks ?_)
    exact comes_of_address (by decide) awaits_listOpened haddress (comes_of_element h hafter)

end

end Reader

end WaitingList.Submission
