import WaitingList.Proofs.Submission.Coded
import WaitingList.Proofs.Submission.Shape

namespace WaitingList.Submission.Grammar

variable {t r body : List UInt8} {part : Part}

theorem Blanks.isSuffix (h : Blanks t r) : r <:+ t := by
  induction h with
  | nil => exact List.suffix_rfl
  | cons _ _ ih => exact ih.trans (List.suffix_cons ..)

theorem Number.isSuffix (h : Number t r) : r <:+ t := by
  obtain ⟨b, u, phase, rfl, _, hends⟩ := NumberPhase.number_iff.mp h
  exact hends.isSuffix.trans (List.suffix_cons ..)

theorem Skipped.isSuffix (h : Skipped t r) : r <:+ t := by
  induction h with
  | close => exact List.suffix_cons ..
  | plain _ _ _ _ ih => exact ih.trans (List.suffix_cons ..)
  | short _ _ ih => exact ih.trans ⟨[_, _], rfl⟩
  | code hcode _ ih =>
    obtain ⟨_, _, _, _⟩ := hcode
    exact ih.trans ⟨[_, _, _, _, _, _], rfl⟩

theorem Written.isSuffix (h : Written t r) : r <:+ t := by
  induction h with
  | close => exact List.suffix_cons ..
  | plain _ _ _ _ ih => exact ih.trans (List.suffix_append ..)
  | short _ _ ih => exact ih.trans ⟨[_, _], rfl⟩
  | code hcode _ ih =>
    obtain ⟨_, _, _, _⟩ := hcode
    exact ih.trans ⟨[_, _, _, _, _, _], rfl⟩

theorem Decoded.skipped (h : Decoded t r) : Skipped t r := by
  obtain ⟨text, hchars⟩ := h
  exact (Coded.of_chars hchars).skipped

theorem Decoded.isSuffix (h : Decoded t r) : r <:+ t := h.skipped.isSuffix

private theorem isSuffix_of_cons {b c : UInt8} (h : b :: r <:+ t) : r <:+ c :: t :=
  (List.suffix_cons b r).trans (h.trans (List.suffix_cons c t))

section Text

-- A text is left behind as the end of what it begins.
variable {text : List UInt8 → List UInt8 → Prop} (hsuffix : ∀ t r, text t r → r <:+ t)

include hsuffix

theorem Json.isSuffix (h : Json text part t r) : r <:+ t := by
  induction h with
  | word _ => exact List.suffix_append ..
  | number h => exact h.isSuffix
  | text h => exact (hsuffix _ _ h).trans (List.suffix_cons ..)
  | emptyList h | emptyObject h => exact isSuffix_of_cons h.isSuffix
  | list _ ih | object _ ih => exact isSuffix_of_cons ih
  | element hbefore _ hafter ih => exact hafter.isSuffix.trans (ih.trans hbefore.isSuffix)
  | lastElement _ ih | lastMember _ ih => exact ih
  | elements _ _ ih ihrest | members _ _ ih ihrest =>
    exact ihrest.trans ((List.suffix_cons ..).trans ih)
  | member hbefore hname hafter _ ih =>
    have hcolon := (List.suffix_cons ..).trans hafter.isSuffix
    have hquote := (List.suffix_cons ..).trans hbefore.isSuffix
    exact ih.trans (hcolon.trans ((hsuffix _ _ hname).trans hquote))

/-- JSON stays JSON with other texts, if those in it are among them. -/
theorem Json.imp {text' : List UInt8 → List UInt8 → Prop} (h : Json text part t r)
    (himp : ∀ u v, quote :: u <:+ t → text u v → text' u v) : Json text' part t r := by
  induction h with
  | word hword => exact .word hword
  | number h => exact .number h
  | text h => exact .text (himp _ _ List.suffix_rfl h)
  | emptyList h => exact .emptyList h
  | emptyObject h => exact .emptyObject h
  | list _ ih => exact .list (ih fun u v hu => himp u v (hu.trans (List.suffix_cons ..)))
  | object _ ih => exact .object (ih fun u v hu => himp u v (hu.trans (List.suffix_cons ..)))
  | element hbefore _ hafter ih =>
    exact .element hbefore (ih fun u v hu => himp u v (hu.trans hbefore.isSuffix)) hafter
  | lastElement _ ih => exact .lastElement (ih himp)
  | lastMember _ ih => exact .lastMember (ih himp)
  | elements h _ ih ihrest =>
    have hrest := (List.suffix_cons ..).trans (h.isSuffix hsuffix)
    exact .elements (ih himp) (ihrest fun u v hu => himp u v (hu.trans hrest))
  | members h _ ih ihrest =>
    have hrest := (List.suffix_cons ..).trans (h.isSuffix hsuffix)
    exact .members (ih himp) (ihrest fun u v hu => himp u v (hu.trans hrest))
  | member hbefore hname hafter _ ih =>
    have hcolon := (List.suffix_cons ..).trans hafter.isSuffix
    have hquote := (List.suffix_cons ..).trans hbefore.isSuffix
    have hrest := hcolon.trans ((hsuffix _ _ hname).trans hquote)
    exact .member hbefore (himp _ _ hbefore.isSuffix hname) hafter
      (ih fun u v hu => himp u v (hu.trans hrest))

end Text

/-- An object that is nowhere closed is no JSON. -/
theorem Json.closing_mem (h : Json Written .element body []) (hhead : body.head? = some 0x7B) :
    0x7D ∈ body := by
  cases h with
  | element hbefore hvalue _ =>
    have hblank : (0x7B : UInt8) ∉ [0x20, 0x09, 0x0A, 0x0D] := by decide
    cases hbefore with
    | cons hmem _ =>
      obtain rfl := Option.some.inj hhead
      exact absurd hmem hblank
    | nil =>
      cases hvalue with
      | word hword =>
        simp only [List.mem_cons, List.not_mem_nil, or_false] at hword
        rcases hword with rfl | rfl | rfl <;> cases hhead
      | number h =>
        obtain ⟨b, u, phase, rfl, hfirst, _⟩ := NumberPhase.number_iff.mp h
        obtain rfl := Option.some.inj hhead
        cases hfirst
      | text | emptyList | list => cases hhead
      | emptyObject h => exact List.mem_cons_of_mem _ (h.isSuffix.mem (List.mem_cons_self ..))
      | object h =>
        have hsuffix := h.isSuffix fun _ _ => Written.isSuffix
        exact List.mem_cons_of_mem _ (hsuffix.mem (List.mem_cons_self ..))

end WaitingList.Submission.Grammar
