import WaitingList.Proofs.Submission.Json

namespace WaitingList.Submission.Grammar

variable {t r body : List UInt8} {place : Place}

private theorem address_or_unfit {word : String} (hword : word ∈ ["null", "true", "false"]) :
    Address (Utf8.encode word.toList ++ r) none r ∨
      Unfit place (Utf8.encode word.toList ++ r) := by
  rcases List.mem_cons.mp hword with rfl | hother
  · exact .inl .null
  · exact .inr (.word hother)

private theorem unfit_or_excessive (hnumber : Number t r) (hdelimited : Delimited r) :
    Unfit place t ∨ Excessive t := by
  obtain ⟨value, hworth⟩ := hnumber.exists_worth hdelimited
  cases hrange : value.inRange with
  | true => exact .inl (.number hworth hrange)
  | false => exact .inr ⟨hworth, hrange⟩

/-- Where an address is needed, every value is one, or is unfit, or is a number that is too
great. -/
private theorem value_cases (place : Place) (hplace : place ≠ .whole)
    (hvalue : Json Decoded .value t r) (hdelimited : Delimited r) :
    (∃ given, Address t given r) ∨ Unfit place t ∨ Excessive t := by
  cases hvalue with
  | word hword => exact (address_or_unfit hword).imp (fun h => ⟨none, h⟩) .inl
  | number hnumber => exact .inr (unfit_or_excessive hnumber hdelimited)
  | text htext =>
    obtain ⟨text, hchars⟩ := htext
    exact .inl ⟨_, .text hchars⟩
  | emptyList | list => exact .inr (.inl (.list hplace))
  | emptyObject | object => exact .inr (.inl (.object hplace))

private theorem member_cases (hmember : Json Decoded .member t r) (hdelimited : Delimited r) :
    (∃ found, Member t found r) ∨ ∃ u v w, Naming t u ∧ Blanks u (0x3A :: v) ∧ Blanks v w ∧
      (Unfit .member w ∨ Excessive w) := by
  cases hmember with
  | member hbefore hname hafter helement =>
    obtain ⟨text, hchars⟩ := hname
    by_cases hemail : text = "email".toList
    · subst hemail
      cases helement with
      | element hblanks hvalue hend =>
        rcases value_cases .member (by decide) hvalue (.of_blanks hend hdelimited) with
          ⟨given, haddress⟩ | hother
        · exact .inl ⟨_, .email hbefore hchars hafter hblanks haddress hend⟩
        · exact .inr ⟨_, _, _, ⟨hbefore, hchars⟩, hafter, hblanks, hother⟩
    · have hskipped := helement.imp (fun _ _ => Decoded.isSuffix) fun _ _ _ => Decoded.skipped
      exact .inl ⟨_, .other hbefore hchars hemail hafter hskipped⟩

private theorem members_cases (hmembers : Json Decoded .members t (0x7D :: r)) :
    (∃ found, Members t found (0x7D :: r)) ∨
      ∃ found u v w x, Leading t found u ∧ Naming u v ∧ Blanks v (0x3A :: w) ∧ Blanks w x ∧
        (Unfit .member x ∨ Excessive x) := by
  generalize hpart : Part.members = part at hmembers
  generalize hrest : 0x7D :: r = rest at hmembers
  induction hmembers with
  | lastMember hmember _ =>
    subst hrest
    rcases member_cases hmember (.cons (by simp)) with ⟨found, hmember⟩ | ⟨v, w, x, hstop⟩
    · exact .inl ⟨found, .last hmember⟩
    · exact .inr ⟨[], _, v, w, x, .nil, hstop⟩
  | members hmember _ _ ih =>
    rcases member_cases hmember (.cons (by simp)) with ⟨found, hmember⟩ | ⟨v, w, x, hstop⟩
    · rcases ih hpart hrest with ⟨more, hmembers⟩ | ⟨more, u, v, w, x, hleading, hstop⟩
      · exact .inl ⟨found ++ more, .more hmember hmembers⟩
      · exact .inr ⟨found ++ more, u, v, w, x, .cons hmember hleading, hstop⟩
    · exact .inr ⟨[], _, v, w, x, .nil, hstop⟩
  | _ => cases hpart

private theorem first_cases (hbefore : Blanks body (0x5B :: t))
    (helement : Json Decoded .element t r) (hdelimited : Delimited r) :
    (∃ u given v, Blanks t u ∧ Address u given v ∧ Blanks v r) ∨
      Misshapen body ∨ Mistaken body := by
  cases helement with
  | element hblanks hvalue hafter =>
    rcases value_cases .element (by decide) hvalue (.of_blanks hafter hdelimited) with
      ⟨given, haddress⟩ | hunfit | hexcessive
    · exact .inl ⟨_, given, _, hblanks, haddress, hafter⟩
    · exact .inr (.inl (.element hbefore hblanks hunfit))
    · exact .inr (.inr (.element hbefore hblanks hexcessive))

private theorem list_cases (hbefore : Blanks body (0x5B :: t))
    (helements : Json Decoded .elements t (0x5D :: r)) (hend : Blanks r []) :
    (∃ given, Submits body given) ∨ Misshapen body ∨ Mistaken body := by
  cases helements with
  | lastElement helement =>
    rcases first_cases hbefore helement (.cons (by simp)) with hfirst | hother
    · obtain ⟨u, given, v, hblanks, haddress, hclosing⟩ := hfirst
      exact .inl ⟨given, [given], .inr (.one hbefore hblanks haddress hclosing hend), rfl⟩
    · exact .inr hother
  | elements helement _ =>
    rcases first_cases hbefore helement (.cons (by simp)) with hfirst | hother
    · obtain ⟨u, given, v, hblanks, haddress, hcomma⟩ := hfirst
      exact .inr (.inr (.further hbefore hblanks haddress hcomma))
    · exact .inr hother

private theorem object_cases (hbefore : Blanks body (0x7B :: t))
    (hmembers : Json Decoded .members t (0x7D :: r)) (hend : Blanks r []) :
    (∃ given, Submits body given) ∨ Misshapen body ∨ Mistaken body := by
  rcases members_cases hmembers with ⟨found, hmembers⟩ | hstops
  · by_cases honce : found.length ≤ 1
    · exact .inl ⟨_, found, .inl ⟨.members hbefore hmembers hend, honce⟩, rfl⟩
    · obtain ⟨u, v, first, hleading, hlength, hnaming⟩ :=
        hmembers.exists_naming (Nat.lt_of_not_le honce)
      have hfirst : first ≠ [] := List.ne_nil_of_length_pos (by omega)
      exact .inr (.inl (.repeated hbefore hleading hfirst hnaming))
  · obtain ⟨found, u, v, w, x, hleading, hnaming, hafter, hblanks, hunfit | hexcessive⟩ := hstops
    · exact .inr (.inl (.email hbefore hleading hnaming hafter hblanks hunfit))
    · cases found with
      | nil => exact .inr (.inr (.email hbefore hleading hnaming hafter hblanks hexcessive))
      | cons given rest =>
        exact .inr (.inl (.repeated hbefore hleading (List.cons_ne_nil given rest) hnaming))

/-- What becomes of JSON whose texts stand for characters. -/
theorem submits_or_misshapen_or_mistaken (hjson : Json Decoded .element body []) :
    (∃ given, Submits body given) ∨ Misshapen body ∨ Mistaken body := by
  cases hjson with
  | element hbefore hvalue hend =>
    have hdelimited : Delimited _ := .of_blanks hend (by rintro _ _ ⟨⟩)
    cases hvalue with
    | word hword =>
      rcases address_or_unfit hword with haddress | hunfit
      · exact .inr (.inl (.address hbefore haddress))
      · exact .inr (.inl (.whole hbefore hunfit))
    | number hnumber =>
      rcases unfit_or_excessive hnumber hdelimited with hunfit | hexcessive
      · exact .inr (.inl (.whole hbefore hunfit))
      · exact .inr (.inr (.whole hbefore hexcessive))
    | text htext =>
      obtain ⟨text, hchars⟩ := htext
      exact .inr (.inl (.address hbefore (.text hchars)))
    | emptyList hclosing => exact .inl ⟨none, [], .inr (.empty hbefore hclosing hend), rfl⟩
    | list helements => exact list_cases hbefore helements hend
    | emptyObject hclosing =>
      exact .inl ⟨none, [], .inl ⟨.empty hbefore hclosing hend, by simp⟩, rfl⟩
    | object hmembers => exact object_cases hbefore hmembers hend

-- What submits something is JSON but for texts that nobody decodes.

theorem Address.value {given : Given} (h : Address t given r) : Json Skipped .value t r := by
  cases h with
  | null => exact .word (by simp)
  | text hchars => exact .text (Decoded.skipped ⟨_, hchars⟩)

theorem Member.json {found : List Given} (h : Member t found r) : Json Skipped .member t r := by
  cases h with
  | email hbefore hname hafter hblanks haddress hend =>
    exact .member hbefore (Decoded.skipped ⟨_, hname⟩) hafter
      (.element hblanks haddress.value hend)
  | other hbefore hname _ hafter hjson =>
    exact .member hbefore (Decoded.skipped ⟨_, hname⟩) hafter hjson

theorem Members.json {found : List Given} (h : Members t found r) :
    Json Skipped .members t r := by
  induction h with
  | last h => exact .lastMember h.json
  | more h _ ih => exact .members h.json ih

theorem Submits.json {given : Given} (h : Submits body given) :
    Json Skipped .element body [] := by
  obtain ⟨found, ⟨hobject, _⟩ | hlisted, _⟩ := h
  · cases hobject with
    | empty hbefore hclosing hend => exact .element hbefore (.emptyObject hclosing) hend
    | members hbefore hmembers hend => exact .element hbefore (.object hmembers.json) hend
  · cases hlisted with
    | empty hbefore hclosing hend => exact .element hbefore (.emptyList hclosing) hend
    | one hbefore hblanks haddress hclosing hend =>
      have hlist := Json.lastElement (.element hblanks haddress.value hclosing)
      exact .element hbefore (.list hlist) hend

/-- What submits something and yet is no JSON has a text in it that is skipped and is not well
formed. -/
theorem Submits.exists_unwritten {given : Given} (h : Submits body given)
    (hjson : ¬ Json Written .element body []) :
    ∃ u v, quote :: u <:+ body ∧ Skipped u v ∧ ¬ Written u v := by
  by_contra hnone
  push Not at hnone
  exact hjson (h.json.imp (fun _ _ => Skipped.isSuffix) hnone)

end WaitingList.Submission.Grammar
