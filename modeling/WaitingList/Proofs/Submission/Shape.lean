import WaitingList.Proofs.Submission.Worth

namespace WaitingList.Submission.Grammar

/-- The rest of a text of JSON behind its opening quote. It is written in UTF-8, but its codes need
not be those of characters. -/
inductive Written : List UInt8 → List UInt8 → Prop where
  | close {r : List UInt8} : Written (quote :: r) r
  | plain {c : Char} {t r : List UInt8} (hcontrol : 0x20 ≤ c.toNat) (hquote : c ≠ '"')
      (hbackslash : c ≠ '\\') (h : Written t r) : Written (String.utf8EncodeChar c ++ t) r
  | short {b : UInt8} {c : Char} {t r : List UInt8} (hshort : (b, c) ∈ shorts)
      (h : Written t r) : Written (backslash :: b :: t) r
  | code {n : Nat} {t u r : List UInt8} (hcode : Code t n u) (h : Written u r) :
      Written (backslash :: codeLetter :: t) r

/-- The rest of a text that stands for characters. -/
def Decoded (t r : List UInt8) : Prop := ∃ cs, Chars t cs r

/-- A body that is an object which gives an address at most once, or a list of at most one address.
Null is as good as no address. -/
def Submits (body : List UInt8) (given : Given) : Prop :=
  ∃ found, (Object body found ∧ found.length ≤ 1 ∨ Listed body found) ∧ given = found.head?.join

/-- Members with a comma behind each, and the addresses that those named `email` give. -/
inductive Leading : List UInt8 → List Given → List UInt8 → Prop where
  | nil {t : List UInt8} : Leading t [] t
  | cons {t u r : List UInt8} {given rest : List Given} (h : Member t given (0x2C :: u))
      (hrest : Leading u rest r) : Leading t (given ++ rest) r

/-- The last of some members has a comma in front, unless it is the only one. -/
theorem Members.exists_leading {t r : List UInt8} {found : List Given} (h : Members t found r) :
    ∃ u first last, Leading t first u ∧ Member u last r ∧ found = first ++ last := by
  induction h with
  | last h => exact ⟨_, [], _, .nil, h, rfl⟩
  | @more _ _ _ given _ h _ ih =>
    obtain ⟨u, first, last, hleading, hlast, rfl⟩ := ih
    exact ⟨u, given ++ first, last, .cons h hleading, hlast, (List.append_assoc ..).symm⟩

/-- The name of a member that is named `email`. -/
inductive Naming : List UInt8 → List UInt8 → Prop where
  | mk {t u r : List UInt8} (hbefore : Blanks t (quote :: u))
      (hname : Chars u "email".toList r) : Naming t r

/-- Members of which more than `n` are named `email` have the name behind `n` of those. -/
theorem Members.exists_naming {t r : List UInt8} {found : List Given} {n : Nat}
    (h : Members t found r) (hmany : n < found.length) :
    ∃ u v first, Leading t first u ∧ first.length = n ∧ Naming u v := by
  induction h generalizing n with
  | last h =>
    cases h with
    | email hbefore hname =>
      obtain rfl : n = 0 := Nat.lt_one_iff.mp hmany
      exact ⟨_, _, [], .nil, rfl, hbefore, hname⟩
    | other => cases hmany
  | more h _ ih =>
    cases h with
    | email hbefore hname hafter hblanks haddress hend =>
      cases n with
      | zero => exact ⟨_, _, [], .nil, rfl, hbefore, hname⟩
      | succ n =>
        obtain ⟨u, v, first, hleading, hlength, hnaming⟩ := ih (Nat.lt_of_succ_lt_succ hmany)
        have hmember := Member.email hbefore hname hafter hblanks haddress hend
        exact ⟨u, v, _ :: first, .cons hmember hleading, congrArg Nat.succ hlength, hnaming⟩
    | other hbefore hname hother hafter hjson =>
      obtain ⟨u, v, first, hleading, hlength, hnaming⟩ := ih hmany
      have hmember := Member.other hbefore hname hother hafter hjson
      exact ⟨u, v, first, .cons hmember hleading, hlength, hnaming⟩

/-- What begins a value that is neither a text nor null: a word, a number that is not too great, or
a bracket. A bracket is none where the whole body is meant, which may be a list or an object. -/
inductive Unfit (place : Place) : List UInt8 → Prop where
  | word {word : String} {r : List UInt8} (hword : word ∈ ["true", "false"]) :
      Unfit place (Utf8.encode word.toList ++ r)
  | number {t : List UInt8} {value : NumberValue} (hworth : numberWorth? t = some value)
      (hrange : value.inRange = true) : Unfit place t
  | list {t : List UInt8} (hplace : place ≠ .whole) : Unfit place (0x5B :: t)
  | object {t : List UInt8} (hplace : place ≠ .whole) : Unfit place (0x7B :: t)

/-- A number that is too great. -/
inductive Excessive : List UInt8 → Prop where
  | mk {t : List UInt8} {value : NumberValue} (hworth : numberWorth? t = some value)
      (hrange : value.inRange = false) : Excessive t

/-- A body that begins with something of the wrong shape: a whole that is neither a list nor an
object, a value that is no address where one is needed, or the name `email` behind members that have
given an address. -/
inductive Misshapen : List UInt8 → Prop where
  | whole {body t : List UInt8} (hbefore : Blanks body t) (h : Unfit .whole t) : Misshapen body
  | address {body t r : List UInt8} {given : Given} (hbefore : Blanks body t)
      (h : Address t given r) : Misshapen body
  | element {body t u : List UInt8} (hbefore : Blanks body (0x5B :: t)) (hblanks : Blanks t u)
      (h : Unfit .element u) : Misshapen body
  | email {body t u v w x : List UInt8} {given : List Given} (hbefore : Blanks body (0x7B :: t))
      (hleading : Leading t given u) (hnaming : Naming u v) (hafter : Blanks v (0x3A :: w))
      (hblanks : Blanks w x) (h : Unfit .member x) : Misshapen body
  | repeated {body t u v : List UInt8} {given : List Given} (hbefore : Blanks body (0x7B :: t))
      (hleading : Leading t given u) (hgiven : given ≠ []) (hnaming : Naming u v) : Misshapen body

/-- A body that is taken for no JSON, though up to there it may be: a number that is too great
stands where it is looked at, or a list goes on behind an address. -/
inductive Mistaken : List UInt8 → Prop where
  | whole {body t : List UInt8} (hbefore : Blanks body t) (h : Excessive t) : Mistaken body
  | element {body t u : List UInt8} (hbefore : Blanks body (0x5B :: t)) (hblanks : Blanks t u)
      (h : Excessive u) : Mistaken body
  | further {body t u v w : List UInt8} {given : Given} (hbefore : Blanks body (0x5B :: t))
      (hblanks : Blanks t u) (haddress : Address u given v) (hcomma : Blanks v (0x2C :: w)) :
      Mistaken body
  | email {body t u v w x : List UInt8} (hbefore : Blanks body (0x7B :: t))
      (hleading : Leading t [] u) (hnaming : Naming u v) (hafter : Blanks v (0x3A :: w))
      (hblanks : Blanks w x) (h : Excessive x) : Mistaken body

end WaitingList.Submission.Grammar
