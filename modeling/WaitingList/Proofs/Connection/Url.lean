import WaitingList.Connection.Target
import WaitingList.Proofs.Text.Blank
import WaitingList.Proofs.Text.Percent
import Mathlib.Data.List.TakeWhile
import Mathlib.Data.Option.Basic

namespace WaitingList.ConnectionUrl

/-- A URL with one segment, by its parts as they stand in it. -/
structure Spelling where
  scheme : List Char
  user : List Char
  password : Option (List Char)
  host : List Char
  port : Option Nat
  segment : List Char
  query : Option (List Char)

namespace Spelling

def login (w : Spelling) : List Char := w.user ++ w.password.elim [] (':' :: ·)

def server (w : Spelling) : List Char := w.host ++ w.port.elim [] (':' :: Nat.toDigits 10 ·)

def address (w : Spelling) : List Char := w.segment ++ w.query.elim [] ('?' :: ·)

def text (w : Spelling) : List Char :=
  w.scheme ++ ':' :: '/' :: '/' :: ((w.login ++ '@' :: w.server) ++ '/' :: w.address)

/-- Whether a character neither ends a part of a URL nor gets lost there. -/
def isPart (c : Char) : Bool :=
  0x20 < c.toNat && !endsAuthority c && c != '@' && c != ':'

/-- Whether a character may stand in the name of a host. -/
def isHost (c : Char) : Bool := c.isAlphanum || c == '-' || c == '.'

/-- What keeps the parts of a URL apart. -/
structure Apart (w : Spelling) : Prop where
  scheme : w.scheme ∈ ConnectionTarget.schemes
  user : ∀ c ∈ w.user, isPart c = true
  password : ∀ password ∈ w.password, ∀ c ∈ password, isPart c = true
  host : ∀ c ∈ w.host, isHost c = true
  named : w.host ≠ []
  port : ∀ port ∈ w.port, port ≤ 65535
  segment : ∀ c ∈ w.segment, isPart c = true
  query : ∀ query ∈ w.query, ∀ c ∈ query, 0x20 < c.toNat ∧ c ≠ '#'

end Spelling

section Split

variable {p : Char → Bool} {text left right : List Char} {c : Char}

theorem splitAtFirst?_append (hleft : ∀ c ∈ left, p c = false) (hc : p c = true) :
    splitAtFirst? p (left ++ c :: right) = some (left, right) := by
  have hkept : ∀ c ∈ left, (!p c) = true := by simpa using hleft
  have hends : (!p c) = false := by simpa using hc
  rw [splitAtFirst?, List.dropWhile_append_of_pos hkept, List.takeWhile_append_of_pos hkept]
  simp only [List.dropWhile_cons, List.takeWhile_cons, hends, Bool.false_eq_true, if_false,
    List.append_nil]

theorem splitAtFirst?_of_none (h : ∀ c ∈ left, p c = false) : splitAtFirst? p left = none := by
  have hdrop : left.dropWhile (!p ·) = [] := by
    rw [List.dropWhile_eq_nil_iff]
    simpa using h
  rw [splitAtFirst?, hdrop]

theorem splitAtFirst?_eq_some_iff : splitAtFirst? p text = some (left, right) ↔
    ∃ c, text = left ++ c :: right ∧ p c = true ∧ ∀ c ∈ left, p c = false := by
  constructor
  · intro h
    unfold splitAtFirst? at h
    split at h
    · cases h
    next c rest hrest =>
    obtain ⟨rfl, rfl⟩ := Prod.mk.inj (Option.some.inj h)
    refine ⟨c, ?_, ?_, fun d hd => by simpa using List.mem_takeWhile_imp hd⟩
    · rw [← hrest, List.takeWhile_append_dropWhile]
    · simpa [hrest] using List.head?_dropWhile_not (!p ·) text
  · rintro ⟨c, rfl, hc, hleft⟩
    exact splitAtFirst?_append hleft hc

theorem splitAtFirst?_eq_none_iff : splitAtFirst? p text = none ↔ ∀ c ∈ text, p c = false := by
  refine ⟨fun h => ?_, splitAtFirst?_of_none⟩
  unfold splitAtFirst? at h
  split at h
  next hnil => simpa using List.dropWhile_eq_nil_iff.mp hnil
  · cases h

theorem splitAtFirst?_append_of_none (h : splitAtFirst? p text = none) (more : List Char) :
    splitAtFirst? p (text ++ more) =
      (splitAtFirst? p more).map fun (left, right) => (text ++ left, right) := by
  have hother := splitAtFirst?_eq_none_iff.mp h
  cases hmore : splitAtFirst? p more with
  | none =>
    have hrest := splitAtFirst?_eq_none_iff.mp hmore
    exact splitAtFirst?_of_none fun c hc => (List.mem_append.mp hc).elim (hother c) (hrest c)
  | some parts =>
    obtain ⟨c, rfl, hc, hleft⟩ := splitAtFirst?_eq_some_iff.mp hmore
    refine splitAtFirst?_eq_some_iff.mpr ⟨c, (List.append_assoc ..).symm, hc, fun d hd => ?_⟩
    exact (List.mem_append.mp hd).elim (hother d) (hleft d)

theorem splitAtLast?_append (hright : c ∉ right) :
    splitAtLast? c (left ++ c :: right) = some (left, right) := by
  have hreverse : (left ++ c :: right).reverse = right.reverse ++ c :: left.reverse := by simp
  have hother : ∀ d ∈ right.reverse, (d == c) = false := by
    intro d hd
    simp only [beq_eq_false_iff_ne, ne_eq]
    rintro rfl
    exact hright (List.mem_reverse.mp hd)
  rw [splitAtLast?, hreverse, splitAtFirst?_append hother (beq_self_eq_true c)]
  simp

theorem takeWhile_append_of_neg (hleft : ∀ c ∈ left, p c = true) (hc : p c = false) :
    (left ++ c :: right).takeWhile p = left := by
  rw [List.takeWhile_append_of_pos hleft, List.takeWhile_cons_of_neg (by simp [hc]),
    List.append_nil]

theorem dropWhile_append_of_neg (hleft : ∀ c ∈ left, p c = true) (hc : p c = false) :
    (left ++ c :: right).dropWhile p = c :: right := by
  rw [List.dropWhile_append_of_pos hleft, List.dropWhile_cons_of_neg (by simp [hc])]

section Stops

/-- A text is not looked at behind a character that stops the look. -/
theorem takeWhile_append_of_stops (hstops : ∀ c ∈ right.head?, p c = false) :
    (left ++ right).takeWhile p = left.takeWhile p := by
  induction left with
  | nil =>
    cases right with
    | nil => rfl
    | cons c rest =>
      have hc := hstops c rfl
      rw [List.nil_append, List.takeWhile_cons_of_neg (by simp [hc]), List.takeWhile_nil]
  | cons c left ih => simp only [List.cons_append, List.takeWhile_cons, ih]

theorem dropWhile_append_of_stops (hstops : ∀ c ∈ right.head?, p c = false) :
    (left ++ right).dropWhile p = left.dropWhile p ++ right := by
  induction left with
  | nil =>
    cases right with
    | nil => rfl
    | cons c rest =>
      have hc := hstops c rfl
      rw [List.nil_append, List.dropWhile_cons_of_neg (by simp [hc]), List.dropWhile_nil,
        List.nil_append]
  | cons c left ih =>
    rw [List.cons_append, List.dropWhile_cons, List.dropWhile_cons, ih]
    split <;> rfl

/-- Nothing is dropped of a text that begins with a character that stops. -/
theorem dropWhile_of_stops (hstops : ∀ c ∈ right.head?, p c = false) :
    right.dropWhile p = right := by
  cases right with
  | nil => rfl
  | cons c rest => rw [List.dropWhile_cons_of_neg (by simp [hstops c rfl])]

end Stops

end Split

section Parts

variable {c : Char}

theorem isLineBreak_of_not_isMargin {c : Char} (hc : isMargin c = false) :
    isLineBreak c = false := by
  have hother (d : Char) (hd : isMargin d = true) : c ≠ d := by
    rintro rfl
    rw [hc] at hd
    cases hd
  simp [isLineBreak, hother '\t' (by decide), hother '\n' (by decide), hother '\r' (by decide)]

theorem clean_of_visible {text : List Char} (h : ∀ c ∈ text, 0x20 < c.toNat) :
    clean text = text := by
  have hmargin : ∀ c ∈ text, isMargin c = false := by
    intro c hc
    have hvisible := h c hc
    simp only [isMargin, decide_eq_false_iff_not]
    omega
  have hdrop {part : List Char} (hpart : ∀ c ∈ part, isMargin c = false) :
      part.dropWhile isMargin = part := by
    rw [List.dropWhile_eq_self_iff]
    intro hlength
    simp [hpart _ (List.getElem_mem hlength)]
  have hkept : text.filter (!isLineBreak ·) = text := by
    rw [List.filter_eq_self]
    intro c hc
    simp [isLineBreak_of_not_isMargin (hmargin c hc)]
  have hreverse : ∀ c ∈ text.reverse, isMargin c = false := by simpa using hmargin
  simp only [clean, hdrop hmargin, hdrop hreverse, List.reverse_reverse, hkept]

theorem splitScheme?_of_store {scheme : List Char} (h : scheme ∈ ConnectionTarget.schemes)
    (rest : List Char) : splitScheme? (scheme ++ ':' :: rest) = some (scheme, rest) := by
  have hall : ∀ scheme ∈ ConnectionTarget.schemes, scheme.all (· != ':') = true ∧
      scheme.head?.any Char.isAlpha = true ∧ scheme.all isSchemeChar = true ∧
      scheme.map Char.toLower = scheme := by
    decide
  obtain ⟨hcolon, halpha, hchars, hlower⟩ := hall scheme h
  have hplain : ∀ c ∈ scheme, (c == ':') = false := by simpa using hcolon
  obtain ⟨first, hfirst, hletter⟩ := (Option.any_eq_true _ _).mp halpha
  rw [splitScheme?, splitAtFirst?_append hplain (by decide)]
  simp only [Option.bind_eq_bind, Option.bind_some, hfirst, hletter, hchars, hlower, Bool.and_true,
    if_true]

theorem credentials_login {w : Spelling} (h : w.Apart) :
    credentials w.login = (w.user, w.password.getD []) := by
  have huser : ∀ c ∈ w.user, (c == ':') = false := by
    intro c hc
    have hpart := h.user c hc
    simp only [Spelling.isPart, Bool.and_eq_true, bne_iff_ne] at hpart
    simpa using hpart.2
  rw [credentials, Spelling.login]
  cases w.password with
  | none => simp [splitAtFirst?_of_none huser]
  | some password => simp [splitAtFirst?_append huser (beq_self_eq_true ':')]

end Parts

section Server

variable {host : List Char}

theorem Spelling.isHost_iff {c : Char} :
    isHost c = true ↔ c.isAlphanum = true ∨ c = '-' ∨ c = '.' := by
  simp [isHost, or_assoc]

/-- The name of a host holds none of the signs that mean something in an address. -/
theorem ne_of_isHost {c d : Char} (hc : Spelling.isHost c = true)
    (hd : Spelling.isHost d = false) : c ≠ d := by
  rintro rfl
  rw [hc] at hd
  cases hd

theorem hostEnd_append (hhost : ∀ c ∈ host, Spelling.isHost c = true) {rest : List Char}
    (hrest : rest = [] ∨ ∃ more, rest = ':' :: more) :
    hostEnd false (host ++ rest) = host := by
  induction host with
  | nil =>
    obtain rfl | ⟨more, rfl⟩ := hrest
    · rfl
    · rfl
  | cons c host ih =>
    have hc := hhost c List.mem_cons_self
    have hcolon : (c == ':') = false := by simpa using ne_of_isHost hc (by decide)
    have hbracket : (c == '[') = false := by simpa using ne_of_isHost hc (by decide)
    have htail := ih fun d hd => hhost d (List.mem_cons_of_mem c hd)
    rw [List.cons_append, hostEnd]
    simp only [hcolon, hbracket, Bool.false_and, Bool.or_self, Bool.false_eq_true, if_false, htail]

theorem toNat_of_isHost {c : Char} (hc : Spelling.isHost c = true) :
    0x20 < c.toNat ∧ c.toNat < 0x7F := by
  obtain halpha | rfl | rfl := Spelling.isHost_iff.mp hc
  · exact toNat_of_isAlphanum halpha
  · decide
  · decide

/-- The name of a host can stand in any part of a URL. -/
theorem isPart_of_isHost {c : Char} (hc : Spelling.isHost c = true) :
    Spelling.isPart c = true := by
  have hother {d : Char} (hd : Spelling.isHost d = false) : c ≠ d := ne_of_isHost hc hd
  simp [Spelling.isPart, endsAuthority, (toNat_of_isHost hc).1,
    hother (show Spelling.isHost '/' = false by decide),
    hother (show Spelling.isHost '?' = false by decide),
    hother (show Spelling.isHost '#' = false by decide),
    hother (show Spelling.isHost '@' = false by decide),
    hother (show Spelling.isHost ':' = false by decide)]

/-- What is encoded can stand in any part of a URL. -/
theorem isPart_of_mem_encodeReserved {c : Char} {text : List Char}
    (hc : c ∈ Percent.encodeReserved text) : Spelling.isPart c = true := by
  obtain rfl | hplain := Percent.of_mem_encodeReserved hc
  · decide
  · simp only [Percent.isUnreserved, Bool.or_eq_true, beq_iff_eq] at hplain
    obtain (hhost | rfl) | rfl := hplain
    · exact isPart_of_isHost (Spelling.isHost_iff.mpr (by rwa [or_assoc] at hhost))
    · decide
    · decide

/-- The name of a host is left as it is. -/
theorem host?_of_isHost (hhost : ∀ c ∈ host, Spelling.isHost c = true) :
    host? host = some host := by
  have hopen : host.head? ≠ some '[' := by
    intro hhead
    exact ne_of_isHost (hhost '[' (List.mem_of_mem_head? hhead)) (by decide) rfl
  have hallowed : host.any forbiddenInHost.contains = false := by
    have hsigns : forbiddenInHost.any Spelling.isHost = false := by decide
    rw [List.any_eq_false] at hsigns ⊢
    intro c hc hforbidden
    exact hsigns c (by simpa using hforbidden) (hhost c hc)
  have hplain : Percent.encode isEncodedInHost host = host := by
    refine Percent.encode_eq_self fun c hc => ?_
    obtain ⟨hlow, hhigh⟩ := toNat_of_isHost (hhost c hc)
    simp only [isEncodedInHost, Bool.or_eq_false_iff, decide_eq_false_iff_not]
    omega
  rw [host?, if_neg hopen, hallowed, hplain]
  rfl

theorem decimalValue_toDigits (n : Nat) : IpAddress.decimalValue (Nat.toDigits 10 n) = n := by
  have hvalue : IpAddress.decimalValue (Nat.toDigits 10 n) =
      Nat.ofDigitChars 10 (Nat.toDigits 10 n) 0 := by
    simp only [IpAddress.decimalValue, Nat.ofDigitChars, Nat.mul_comm 10]
    rfl
  rw [hvalue, Nat.ofDigitChars_ten_toDigits]

theorem isDigit_of_mem_toDigits {n : Nat} {c : Char} (hc : c ∈ Nat.toDigits 10 n) :
    c.isDigit = true := Nat.isDigit_of_mem_toDigits (by decide) (by decide) hc

theorem port?_toDigits {port : Nat} (hport : port ≤ 65535) :
    port? (Nat.toDigits 10 port) = some (some port) := by
  have hdigits : (Nat.toDigits 10 port).all Char.isDigit = true :=
    List.all_eq_true.mpr fun c hc => isDigit_of_mem_toDigits hc
  have hsome : (Nat.toDigits 10 port).isEmpty = false := by simp [Nat.toDigits_ne_nil]
  have hfits : port ≤ maxPort := hport
  rw [port?, hdigits, hsome, decimalValue_toDigits]
  simp only [Bool.not_true, Bool.false_eq_true, if_false, if_pos hfits]

theorem of_isPart {c : Char} (hc : Spelling.isPart c = true) :
    0x20 < c.toNat ∧ endsAuthority c = false ∧ c ≠ '@' := by
  simp only [Spelling.isPart, Bool.and_eq_true, decide_eq_true_eq, Bool.not_eq_true',
    bne_iff_ne] at hc
  exact ⟨hc.1.1.1, hc.1.1.2, hc.1.2⟩

/-- The characters of a server end neither its authority nor its port. -/
theorem server_plain {w : Spelling} (h : w.Apart) :
    ∀ c ∈ w.server, 0x20 < c.toNat ∧ endsAuthority c = false ∧ c ≠ '@' := by
  intro c hc
  obtain hhost | hport := List.mem_append.mp hc
  · exact of_isPart (isPart_of_isHost (h.host c hhost))
  · cases hp : w.port with
    | none =>
      rw [hp] at hport
      cases hport
    | some port =>
      rw [hp] at hport
      obtain rfl | hdigit := List.mem_cons.mp hport
      · decide
      · have halphanum : c.isAlphanum = true := by
          simp [Char.isAlphanum, isDigit_of_mem_toDigits hdigit]
        exact of_isPart (isPart_of_isHost (Spelling.isHost_iff.mpr (.inl halphanum)))

theorem splitHost?_server {w : Spelling} (h : w.Apart) (path : List Char) :
    splitHost? (w.server ++ '/' :: path) = some (w.host, w.port, '/' :: path) := by
  have hplain : ∀ c ∈ w.server, (!endsAuthority c) = true := by
    intro c hc
    simp [(server_plain h c hc).2.1]
  have hauthority : (w.server ++ '/' :: path).takeWhile (!endsAuthority ·) = w.server :=
    takeWhile_append_of_neg hplain (by decide)
  have hend : hostEnd false w.server = w.host := by
    refine hostEnd_append h.host ?_
    cases w.port with
    | none => exact .inl rfl
    | some port => exact .inr ⟨_, rfl⟩
  simp only [splitHost?, hauthority, hend, host?_of_isHost h.host, Option.bind_eq_bind,
    Option.bind_some]
  cases hp : w.port with
  | none =>
    have hrest : (w.server ++ '/' :: path).drop w.host.length = '/' :: path := by
      simp [Spelling.server, hp]
    rw [hrest]
    rfl
  | some port =>
    have hrest : (w.server ++ '/' :: path).drop w.host.length =
        ':' :: (Nat.toDigits 10 port ++ '/' :: path) := by
      simp [Spelling.server, hp]
    have hdigits : ∀ c ∈ Nat.toDigits 10 port, (!(endsAuthority c || c == '\\')) = true := by
      intro c hc
      have hdigit := isDigit_of_mem_toDigits hc
      have hother (d : Char) (hd : d.isDigit = false) : c ≠ d := by
        rintro rfl
        rw [hdigit] at hd
        cases hd
      simp [endsAuthority, hother '/' (by decide), hother '?' (by decide), hother '#' (by decide),
        hother '\\' (by decide)]
    have hport : port ≤ 65535 := h.port port (by simp [hp])
    have hnamed : w.host.isEmpty = false := by simpa using h.named
    rw [hrest]
    simp only [hnamed, Bool.false_eq_true, if_false]
    rw [takeWhile_append_of_neg hdigits (by decide), dropWhile_append_of_neg hdigits (by decide),
      port?_toDigits hport]
    rfl

end Server

section Whole

variable {w : Spelling} {c : Char}

theorem login_plain (h : w.Apart) (hc : c ∈ w.login) :
    0x20 < c.toNat ∧ endsAuthority c = false := by
  have hpart {c : Char} (hc : Spelling.isPart c = true) :
      0x20 < c.toNat ∧ endsAuthority c = false := ⟨(of_isPart hc).1, (of_isPart hc).2.1⟩
  obtain huser | hpassword := List.mem_append.mp hc
  · exact hpart (h.user c huser)
  · cases hp : w.password with
    | none =>
      rw [hp] at hpassword
      cases hpassword
    | some password =>
      rw [hp] at hpassword
      obtain rfl | hmem := List.mem_cons.mp hpassword
      · decide
      · exact hpart (h.password password (by simp [hp]) c hmem)

theorem address_plain (h : w.Apart) (hc : c ∈ w.address) : 0x20 < c.toNat ∧ c ≠ '#' := by
  obtain hsegment | hquery := List.mem_append.mp hc
  · obtain ⟨hvisible, hends, _⟩ := of_isPart (h.segment c hsegment)
    refine ⟨hvisible, ?_⟩
    rintro rfl
    cases hends
  · cases hq : w.query with
    | none =>
      rw [hq] at hquery
      cases hquery
    | some query =>
      rw [hq] at hquery
      obtain rfl | hmem := List.mem_cons.mp hquery
      · decide
      · exact h.query query (by simp [hq]) c hmem

theorem scheme_visible {scheme : List Char} (h : scheme ∈ ConnectionTarget.schemes)
    (hc : c ∈ scheme) : 0x20 < c.toNat := by
  have hall : ∀ scheme ∈ ConnectionTarget.schemes, scheme.all (0x20 < ·.toNat) = true := by decide
  exact of_decide_eq_true (List.all_eq_true.mp (hall scheme h) c hc)

theorem text_visible (h : w.Apart) (hc : c ∈ w.text) : 0x20 < c.toNat := by
  simp only [Spelling.text, List.mem_append, List.mem_cons] at hc
  obtain hscheme | rfl | rfl | rfl | (hlogin | rfl | hserver) | rfl | haddress := hc
  · exact scheme_visible h.scheme hscheme
  · decide
  · decide
  · decide
  · exact (login_plain h hlogin).1
  · decide
  · exact (server_plain h c hserver).1
  · decide
  · exact (address_plain h haddress).1

/-- Reading takes a URL apart where it was put together. Only the path is settled. -/
theorem ofText?_text (h : w.Apart) :
    ofText? (String.ofList w.text) =
      some
        { scheme := w.scheme
          user := w.user
          password := w.password.getD []
          host := w.host
          port := w.port
          path := settle [] [w.segment]
          query := w.query.getD [] } := by
  have hauthority : ∀ c ∈ w.login ++ '@' :: w.server, (!endsAuthority c) = true := by
    intro c hc
    simp only [List.mem_append, List.mem_cons] at hc
    obtain hlogin | rfl | hserver := hc
    · simp [(login_plain h hlogin).2]
    · decide
    · simp [(server_plain h c hserver).2.1]
  have hsign : '@' ∉ w.server := fun hsign => (server_plain h '@' hsign).2.2 rfl
  have hfragment : ('/' :: w.address).takeWhile (· != '#') = '/' :: w.address := by
    rw [List.takeWhile_eq_self_iff]
    intro c hc
    obtain rfl | haddress := List.mem_cons.mp hc
    · decide
    · simpa using (address_plain h haddress).2
  have hsegment : ∀ c ∈ '/' :: w.segment, (c != '?') = true := by
    intro c hc
    obtain rfl | hmem := List.mem_cons.mp hc
    · decide
    · have hends := (of_isPart (h.segment c hmem)).2.1
      simp only [endsAuthority, Bool.or_eq_false_iff] at hends
      simpa using hends.1.2
  have hpath : ('/' :: w.address).takeWhile (· != '?') = '/' :: w.segment ∧
      (('/' :: w.address).dropWhile (· != '?')).drop 1 = w.query.getD [] := by
    rw [Spelling.address, ← List.cons_append]
    cases w.query with
    | none =>
      have hdrop := List.dropWhile_eq_nil_iff.mpr hsegment
      refine ⟨?_, ?_⟩
      · simpa using hsegment
      · rw [Option.elim_none, List.append_nil, hdrop]
        rfl
    | some query =>
      refine ⟨takeWhile_append_of_neg hsegment (by decide), ?_⟩
      rw [Option.elim_some, dropWhile_append_of_neg hsegment (by decide)]
      rfl
  have hsingle : w.segment.splitOn '/' = [w.segment] := by
    rw [List.splitOn_eq_splitOnP]
    refine List.splitOnP_eq_singleton fun c hc => ?_
    have hends := (of_isPart (h.segment c hc)).2.1
    simp only [endsAuthority, Bool.or_eq_false_iff] at hends
    exact hends.1.1
  rw [ofText?, String.toList_ofList, clean_of_visible (fun c hc => text_visible h hc),
    Spelling.text, splitScheme?_of_store h.scheme]
  simp only [Option.bind_eq_bind, Option.bind_some]
  rw [takeWhile_append_of_neg hauthority (by decide), splitAtLast?_append hsign]
  simp only [Option.bind_some, List.drop_left, credentials_login h]
  rw [splitHost?_server h]
  simp only [Option.bind_some, hfragment, hpath, pathOf, hsingle]

end Whole

end WaitingList.ConnectionUrl
