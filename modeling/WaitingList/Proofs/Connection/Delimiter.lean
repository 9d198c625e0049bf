import WaitingList.Proofs.Connection.Url

namespace WaitingList

namespace ConnectionUrl

theorem endsAuthority_iff {c : Char} : endsAuthority c = true ↔ c ∈ ['/', '?', '#'] := by
  simp [endsAuthority, or_assoc]

/-- What a text loses in front of a visible character does not depend on what stands behind. -/
theorem exists_clean_append {sign : Char} (hsign : isMargin sign = false)
    (left right : List Char) : ∃ rest, clean (left ++ sign :: right) =
      (left.dropWhile isMargin).filter (!isLineBreak ·) ++ sign :: rest := by
  have hstops {text : List Char} : ∀ c ∈ (sign :: text).head?, isMargin c = false := by
    simpa using hsign
  refine ⟨(right.reverse.dropWhile isMargin).reverse.filter (!isLineBreak ·), ?_⟩
  simp only [clean, dropWhile_append_of_stops hstops, List.reverse_append, List.reverse_cons,
    List.reverse_reverse, List.append_assoc, List.singleton_append, List.filter_append]
  rw [List.filter_cons_of_pos (by simp [isLineBreak_of_not_isMargin hsign])]

/-- The scheme of a store's URL and the signs behind it stay as they are. -/
theorem clean_store {scheme : List Char} (hscheme : scheme ∈ ConnectionTarget.schemes)
    (login : List Char) :
    ((scheme ++ ':' :: '/' :: '/' :: login).dropWhile isMargin).filter (!isLineBreak ·) =
      scheme ++ ':' :: '/' :: '/' :: login.filter (!isLineBreak ·) := by
  simp only [ConnectionTarget.schemes, List.mem_cons, List.not_mem_nil, or_false] at hscheme
  obtain rfl | rfl := hscheme <;> rfl

/-- Nothing is read of a URL whose authority ends before its credentials do. -/
theorem ofText?_of_open_login {scheme login rest : List Char}
    (hscheme : scheme ∈ ConnectionTarget.schemes) (hopen : ∃ c ∈ login, endsAuthority c = true)
    (hsign : '@' ∉ login) :
    ofText? (String.ofList (scheme ++ ':' :: '/' :: '/' :: (login ++ rest))) = none := by
  cases hsplit : splitAtFirst? endsAuthority login with
  | none =>
    obtain ⟨c, hc, hends⟩ := hopen
    rw [splitAtFirst?_eq_none_iff.mp hsplit c hc] at hends
    cases hends
  | some parts =>
    obtain ⟨before, after⟩ := parts
    obtain ⟨delimiter, rfl, hends, hbefore⟩ := splitAtFirst?_eq_some_iff.mp hsplit
    have hvisible : isMargin delimiter = false := by
      have hall : ['/', '?', '#'].all (!isMargin ·) = true := by decide
      simpa using List.all_eq_true.mp hall delimiter (endsAuthority_iff.mp hends)
    have htext : scheme ++ ':' :: '/' :: '/' :: (before ++ delimiter :: after ++ rest) =
        (scheme ++ ':' :: '/' :: '/' :: before) ++ delimiter :: (after ++ rest) := by
      simp
    obtain ⟨behind, hclean⟩ :=
      exists_clean_append hvisible (scheme ++ ':' :: '/' :: '/' :: before) (after ++ rest)
    have hauthority : ∀ c ∈ before.filter (!isLineBreak ·), (!endsAuthority c) = true := by
      intro c hc
      simp [hbefore c (List.mem_filter.mp hc).1]
    have hcredentials : splitAtLast? '@' (before.filter (!isLineBreak ·)) = none := by
      have hother : ∀ c ∈ (before.filter (!isLineBreak ·)).reverse, (c == '@') = false := by
        intro c hc
        rw [beq_eq_false_iff_ne]
        rintro rfl
        exact hsign (List.mem_append_left _ (List.mem_filter.mp (List.mem_reverse.mp hc)).1)
      rw [splitAtLast?, splitAtFirst?_of_none hother]
      rfl
    rw [ofText?, String.toList_ofList, htext, hclean, clean_store hscheme, List.append_assoc,
      List.cons_append, splitScheme?_of_store hscheme]
    simp only [Option.bind_eq_bind, Option.bind_some, List.cons_append]
    rw [takeWhile_append_of_neg hauthority (by simp [hends]), hcredentials]
    rfl

end ConnectionUrl

namespace ConnectionTarget

open ConnectionUrl (Spelling)

/-- A password with an open delimiter makes a URL that of no target, whatever the user, the host,
the port, the database and the query are. -/
theorem ofUrl?_of_open_password {w : Spelling} {password : List Char}
    (hscheme : w.scheme ∈ ["postgres".toList, "postgresql".toList]) (huser : '@' ∉ w.user)
    (hpassword : w.password = some password) (hopen : ∃ c ∈ password, c ∈ ['/', '?', '#'])
    (hsign : '@' ∉ password) : ofUrl? (String.ofList w.text) = none := by
  have hlogin : w.login = w.user ++ ':' :: password := by
    rw [Spelling.login, hpassword]
    rfl
  have hends : ∃ c ∈ w.login, ConnectionUrl.endsAuthority c = true := by
    obtain ⟨c, hc, hdelimiter⟩ := hopen
    have hmem : c ∈ w.login := hlogin ▸ List.mem_append_right _ (List.mem_cons_of_mem _ hc)
    exact ⟨c, hmem, ConnectionUrl.endsAuthority_iff.mpr hdelimiter⟩
  have hplain : '@' ∉ w.login := by
    rw [hlogin, List.mem_append, List.mem_cons]
    simp [huser, hsign]
  rw [ofUrl?, Spelling.text, List.append_assoc,
    ConnectionUrl.ofText?_of_open_login hscheme hends hplain]
  rfl

/-- The user looks like a host and the password begins like a port. -/
theorem ofUrl?_of_open_password_port :
    ofUrl? "postgres://db.internal:5432/secret@h:1/d?sslmode=require" = none :=
  ofUrl?_of_open_password
    (w := ⟨"postgres".toList, "db.internal".toList, some "5432/secret".toList, "h".toList, some 1,
      "d".toList, some "sslmode=require".toList⟩)
    (by decide) (by decide) rfl ⟨'/', by decide, by decide⟩ (by decide)

/-- Encoded, the same password is read. -/
example : ofUrl? "postgres://db.internal:5432%2Fsecret@h:1/d?sslmode=require" =
    some ⟨"db.internal", "5432/secret", 1, "h", "d", .require⟩ := by decide +kernel

end ConnectionTarget

end WaitingList
