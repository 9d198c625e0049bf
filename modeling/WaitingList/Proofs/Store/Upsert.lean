import WaitingList.Proofs.Store.Server
import Mathlib.Data.List.Basic

namespace WaitingList

namespace Row

/-- Rows that a sequence of writes adds up to: one row for each address that was written, with the
number of its last write. Writes are numbered on from `base`. -/
structure Tallies (rows : List Row) (base : Nat) (written : List String) : Prop where
  distinct : (rows.map Row.email).Nodup
  mem_iff : ∀ email number, ⟨email, number⟩ ∈ rows ↔
    ∃ earlier later, written = earlier ++ email :: later ∧ email ∉ later ∧
      number = base + earlier.length + 1

theorem Tallies.nil (base : Nat) : Tallies [] base [] := ⟨by simp, by simp⟩

theorem mem_write {rows : List Row} {row : Row} {email : String} {number : Nat} :
    row ∈ write rows email number ↔ row ∈ rows ∧ row.email ≠ email ∨ row = ⟨email, number⟩ := by
  simp [write]

/-- A list that ends in an element splits at the last occurrence of that element only at its end. -/
private theorem concat_eq_split_self {written earlier later : List String} {email : String}
    (hsplit : written ++ [email] = earlier ++ email :: later) (hlast : email ∉ later) :
    later = [] ∧ earlier = written := by
  obtain rfl | ⟨middle, last, rfl⟩ := later.eq_nil_or_concat'
  · have hlists := List.append_inj' hsplit rfl
    exact ⟨rfl, hlists.1.symm⟩
  · have hends : written ++ [email] = (earlier ++ email :: middle) ++ [last] := by
      simpa using hsplit
    have hlists := List.append_inj' hends rfl
    simp only [List.cons.injEq, and_true] at hlists
    simp [hlists.2] at hlast

private theorem concat_eq_split_other {written earlier later : List String}
    {email other : String} (hne : other ≠ email)
    (hsplit : written ++ [email] = earlier ++ other :: later) :
    ∃ middle, later = middle ++ [email] ∧ written = earlier ++ other :: middle := by
  obtain rfl | ⟨middle, last, rfl⟩ := later.eq_nil_or_concat'
  · have hlists := List.append_inj' hsplit rfl
    simp only [List.cons.injEq, and_true] at hlists
    exact absurd hlists.2.symm hne
  · have hends : written ++ [email] = (earlier ++ other :: middle) ++ [last] := by
      simpa using hsplit
    have hlists := List.append_inj' hends rfl
    simp only [List.cons.injEq, and_true] at hlists
    exact ⟨middle, by rw [hlists.2], hlists.1⟩

/-- One more write adds up with the writes before it. Nothing is asked of the address: whether it
was written before decides between a new row and a new number. -/
theorem Tallies.write {rows : List Row} {base : Nat} {written : List String}
    (h : Tallies rows base written) (email : String) :
    Tallies (write rows email (base + written.length + 1)) base (written ++ [email]) where
  distinct := by
    have hkept : ((rows.filter (·.email ≠ email)).map Row.email).Nodup :=
      h.distinct.sublist (List.filter_sublist.map _)
    simp only [Row.write, List.map_append, List.map_cons, List.map_nil]
    refine List.nodup_append.mpr ⟨hkept, by simp, ?_⟩
    intro kept hmem other hother
    simp only [List.mem_map, List.mem_filter, decide_eq_true_eq] at hmem
    obtain ⟨row, ⟨_, hne⟩, rfl⟩ := hmem
    simp only [List.mem_singleton] at hother
    exact hother ▸ hne
  mem_iff other number := by
    rw [mem_write, h.mem_iff]
    by_cases hother : other = email
    · subst hother
      simp only [ne_eq, not_true_eq_false, and_false, Row.mk.injEq, true_and, false_or]
      constructor
      · intro hnumber
        exact ⟨written, [], rfl, by simp, hnumber⟩
      · rintro ⟨earlier, later, hsplit, hlast, hnumber⟩
        obtain ⟨rfl, rfl⟩ := concat_eq_split_self hsplit hlast
        exact hnumber
    · simp only [ne_eq, hother, not_false_eq_true, and_true, Row.mk.injEq, false_and, or_false]
      constructor
      · rintro ⟨earlier, later, rfl, hlast, hnumber⟩
        exact ⟨earlier, later ++ [email], by simp, by simp [hlast, hother], hnumber⟩
      · rintro ⟨earlier, later, hsplit, hlast, hnumber⟩
        obtain ⟨middle, rfl, rfl⟩ := concat_eq_split_other hother hsplit
        exact ⟨earlier, middle, rfl, by simp_all, hnumber⟩

/-- Every row is of an address that was written. -/
theorem Tallies.email_mem {rows : List Row} {base : Nat} {written : List String}
    (h : Tallies rows base written) {row : Row} (hrow : row ∈ rows) : row.email ∈ written := by
  obtain ⟨earlier, later, rfl, _, _⟩ := (h.mem_iff row.email row.number).mp hrow
  simp

/-- Rows that have taken writes: what is left of those before, and what the writes add up to. -/
def TalliesOver (before after : List Row) (base : Nat) (written : List String) : Prop :=
  ∃ tallied, after = before.filter (·.email ∉ written) ++ tallied ∧ Tallies tallied base written

variable {before after : List Row} {base : Nat} {written : List String}

theorem TalliesOver.nil (before : List Row) (base : Nat) : TalliesOver before before base [] :=
  ⟨[], by simp, .nil base⟩

theorem TalliesOver.write (h : TalliesOver before after base written) (email : String) :
    TalliesOver before (Row.write after email (base + written.length + 1)) base
      (written ++ [email]) := by
  obtain ⟨tallied, rfl, htallies⟩ := h
  refine ⟨_, ?_, htallies.write email⟩
  have hkept : (before.filter (·.email ∉ written)).filter (·.email ≠ email) =
      before.filter (·.email ∉ written ++ [email]) := by
    rw [List.filter_filter]
    refine congrArg (before.filter ·) (funext fun row => ?_)
    simp [Bool.and_comm]
  rw [Row.write, Row.write, List.filter_append, hkept, List.append_assoc]

end Row

namespace ServerWork

/-- What an upsert answers and leaves: a failure that waits for it comes first, then the table has
to be there, and else the row is written with the next number. -/
theorem outcome_upsert (name email : String) (s : Server) :
    (upsert name email).outcome s =
      match s.struck? .upsert, (s.database name).rows with
      | some failure, _ => (.error (.database failure.text), (s.touch name).disarm)
      | none, none =>
        (.error (.database "relation \"subscribers\" does not exist"), s.touch name)
      | none, some rows =>
        (.ok (),
          { (s.touch name).setDatabase name
              { s.database name with rows := some (Row.write rows email (s.writes + 1)) } with
            writes := s.writes + 1 }) := by
  rw [upsert, outcome_bind, outcome_attemptIn]
  cases s.struck? .upsert with
  | some failure => rfl
  | none =>
    cases hrows : (s.database name).rows with
    | none => simp [hrows]
    | some rows => simp [hrows, put, outcome_bind]

end ServerWork

namespace Server

/-- A write into the table of a database: the address gets the next number there, and nothing else
that the server holds changes. -/
structure Wrote (s after : Server) (name email : String) : Prop where
  rows : ∃ rows, (s.database name).rows = some rows ∧
    (after.database name).rows = some (Row.write rows email (s.writes + 1))
  applied : (after.database name).applied = (s.database name).applied
  others : ∀ other, other ≠ name → after.database other = s.database other
  writes : after.writes = s.writes + 1
  password : after.password = s.password

end Server

namespace ServerWork

/-- An upsert that is answered with success wrote exactly once, and any other wrote nothing. -/
theorem upsert_effect (name email : String) (s : Server) :
    (upsert name email).Ends s (fun _ after => s.Wrote after name email) s.Agrees := by
  rw [Ends, outcome_upsert]
  cases s.struck? .upsert with
  | some failure => exact (Server.Agrees.touch s name).trans (Server.Agrees.disarm _)
  | none =>
    cases hrows : (s.database name).rows with
    | none => exact Server.Agrees.touch s name
    | some rows =>
      refine ⟨⟨rows, hrows, ?_⟩, ?_, ?_, rfl, ?_⟩
      · change ((Server.setDatabase _ name _).database name).rows = _
        simp
      · change ((Server.setDatabase _ name _).database name).applied = _
        simp
      · intro other hother
        change (Server.setDatabase _ name _).database other = _
        simp [hother]
      · change (Server.setDatabase _ name _).password = _
        simp

/-- An upsert that succeeds spends no failure. -/
theorem upsert_keeps_armed (name email : String) (s : Server) :
    (upsert name email).Ends s (fun _ after => after.armed = s.armed) fun _ => True := by
  rw [Ends, outcome_upsert]
  cases s.struck? .upsert with
  | some failure => trivial
  | none =>
    cases (s.database name).rows with
    | none => trivial
    | some rows =>
      change (Server.setDatabase _ name _).armed = _
      simp

end ServerWork

end WaitingList
