import WaitingList.Proofs.Settings.Numeral
import WaitingList.Proofs.Settings.Section

namespace WaitingList

/-- The settings that are numbers, and the address, which is four of them. -/
inductive NumericField where
  | listenHost
  | listenPort
  | storePort
  | maxConnections
  | acquireTimeout
  deriving DecidableEq, Repr

namespace NumericField

/-- The section that a setting belongs to. -/
def part : NumericField → String
  | listenHost | listenPort => "net_config"
  | storePort => "db_config"
  | maxConnections | acquireTimeout => "pool_config"

def key : NumericField → String
  | listenHost => "host"
  | listenPort => "app_port"
  | storePort => "port"
  | maxConnections => "max_connections"
  | acquireTimeout => "acquire_timeout_millis"

/-- The place of a setting in a section that is written as a list. -/
def index : NumericField → Nat
  | listenHost | maxConnections => 0
  | listenPort | acquireTimeout => 1
  | storePort => 2

def path (field : NumericField) : List String := [field.part, field.key]

/-- How wide a number is, or each number of the address. -/
def bits : NumericField → Nat
  | listenHost => 8
  | listenPort | storePort => 16
  | maxConnections => 32
  | acquireTimeout => 64

def get (field : NumericField) (r : Settings) : Numeral :=
  match field with
  | listenHost => .list (r.network.host.octets.map Int.ofNat)
  | listenPort => .one r.network.port
  | storePort => .one r.target.port
  | maxConnections => .one r.pool.maxConnections
  | acquireTimeout => .one r.pool.acquireTimeoutMillis

/-- Settings with another number. -/
def put (field : NumericField) (numeral : Numeral) (r : Settings) : Settings :=
  match field, numeral with
  | listenHost, .list [a, b, c, d] =>
    { r with network.host := ⟨a.toNat, b.toNat, c.toNat, d.toNat⟩ }
  | listenPort, .one n => { r with network.port := n.toNat }
  | storePort, .one n => { r with target.port := n.toNat }
  | maxConnections, .one n => { r with pool.maxConnections := n.toNat }
  | acquireTimeout, .one n => { r with pool.acquireTimeoutMillis := n.toNat }
  | _, _ => r

/-- What a setting takes: a number in its range, or four of them for the address. -/
def Accepts (field : NumericField) (numeral : Numeral) : Prop :=
  (∀ n ∈ numeral.integers, 0 ≤ n ∧ n < twoTo field.bits) ∧
    match field, numeral with
    | listenHost, .list ns => ns.length = 4
    | listenHost, .one _ | _, .list _ => False
    | _, .one _ => True

/-- Reads a setting as it is taken. -/
def read : NumericField → Extraction.Reader Numeral
  | listenHost => fun path setting => (Extraction.host path setting).map fun host =>
    .list (host.octets.map Int.ofNat)
  | field => fun path setting =>
    (Extraction.unsigned field.bits path setting).map fun (n : Nat) => .one n

end NumericField

namespace Scalar

/-- The integer that a value is. -/
def integer? : Scalar → Option Int
  | unsigned n => some n
  | signed n => some n
  | boolean _ | text _ | char _ | floating _ => none

end Scalar

namespace Setting

def integer? : Setting → Option Int
  | scalar _ value => value.integer?
  | list _ _ | table _ _ => none

/-- A value that is an integer, or a list of integers. -/
def IsNumeral (s : Setting) : Numeral → Prop
  | .one n => s.integer? = some n
  | .list ns => ∃ source items, s = .list source items ∧ items.map integer? = ns.map some

/-- What a section says under a key or, if it is a list, at a place. -/
def member? (key : String) (index : Nat) : Setting → Option Setting
  | scalar _ _ => none
  | list _ items => items[index]?
  | table _ entries => entries.lookup key

end Setting

namespace Extraction

open Setting (AlikeOff)

variable {source : Source} {path : List String} {bits n : Nat}

section Numbers

/-- A number is taken as it is or not at all. -/
theorem unsigned_eq_ok_iff {s : Setting} :
    unsigned bits path s = .ok n ↔ s.integer? = some (n : Int) ∧ n < twoTo bits := by
  cases s with
  | list | table => simp [unsigned, wrongKind, Setting.integer?]
  | scalar source value =>
    cases value with
    | boolean | text | char | floating =>
      simp [unsigned, wrongKind, Setting.integer?, Scalar.integer?]
    | unsigned m | signed m =>
      simp only [unsigned, Setting.integer?, Scalar.integer?, Option.some.injEq]
      split
      next hm =>
        rw [Except.ok.injEq]
        omega
      next hm =>
        simp only [reduceCtorEq, false_iff]
        omega

theorem item_eq_ok_iff {α : Type} {read : Reader α} {index : Nat} {expected : String}
    {items : List Setting} {a : α} : item read index expected path source items = .ok a ↔
      ∃ s, items[index]? = some s ∧ read (path ++ [toString index]) s = .ok a := by
  rw [item]
  cases items[index]? <;> simp

theorem value?_eq_ok_some_iff {α : Type} {read : Reader α} {key : String}
    {entries : List (String × Setting)} {a : α} : value? read key path entries = .ok (some a) ↔
      ∃ s, entries.lookup key = some s ∧ read (path ++ [key]) s = .ok a := by
  cases hlookup : entries.lookup key with
  | none => simp [value?, hlookup]
  | some s => simp [value?_of_lookup hlookup, map_eq_ok_iff]

theorem exists_cons_of_fourth {items : List Setting} {fourth : Setting}
    (h : items[3]? = some fourth) :
    ∃ first second third more, items = first :: second :: third :: fourth :: more := by
  obtain ⟨hlength, rfl⟩ := List.getElem?_eq_some_iff.mp h
  rcases items with _ | ⟨first, _ | ⟨second, _ | ⟨third, _ | ⟨fourth, more⟩⟩⟩⟩
  iterate 4 simp at hlength
  exact ⟨first, second, third, more, rfl⟩

/-- Of a list of settings the first four are the address. -/
theorem host_eq_ok_iff {s : Setting} {a : HostAddress} : host path s = .ok a ↔
    ∃ source first second third fourth more,
      s = .list source (first :: second :: third :: fourth :: more) ∧
      [first, second, third, fourth].map Setting.integer? =
        a.octets.map (fun octet => some (Int.ofNat octet)) ∧
      ∀ octet ∈ a.octets, octet < twoTo 8 := by
  cases s with
  | scalar | table => simp [host, wrongKind]
  | list source items =>
    simp only [host, bind_eq_ok_iff, item_eq_ok_iff, unsigned_eq_ok_iff]
    constructor
    · rintro ⟨n₀, ⟨first, h₀, hn₀, hlt₀⟩, n₁, ⟨second, h₁, hn₁, hlt₁⟩, n₂, ⟨third, h₂, hn₂, hlt₂⟩,
        n₃, ⟨fourth, h₃, hn₃, hlt₃⟩, heq⟩
      obtain rfl := Except.ok.inj heq
      obtain ⟨_, _, _, more, rfl⟩ := exists_cons_of_fourth h₃
      obtain rfl := Option.some.inj h₀
      obtain rfl := Option.some.inj h₁
      obtain rfl := Option.some.inj h₂
      refine ⟨source, _, _, _, fourth, more, rfl, ?_, ?_⟩
      · simp [HostAddress.octets, hn₀, hn₁, hn₂, hn₃]
      · simp [HostAddress.octets, hlt₀, hlt₁, hlt₂, hlt₃]
    · rintro ⟨_, first, second, third, fourth, more, heq, hvalues, hlt⟩
      obtain ⟨rfl, rfl⟩ := Setting.list.inj heq
      obtain ⟨n₀, n₁, n₂, n₃⟩ := a
      simp only [HostAddress.octets, List.map_cons, List.map_nil, List.cons.injEq, and_true,
        List.forall_mem_cons] at hvalues hlt
      obtain ⟨hn₀, hn₁, hn₂, hn₃⟩ := hvalues
      obtain ⟨hlt₀, hlt₁, hlt₂, hlt₃, _⟩ := hlt
      exact ⟨n₀, ⟨first, rfl, hn₀, hlt₀⟩, n₁, ⟨second, rfl, hn₁, hlt₁⟩, n₂, ⟨third, rfl, hn₂, hlt₂⟩,
        n₃, ⟨fourth, rfl, hn₃, hlt₃⟩, rfl⟩

end Numbers

end Extraction

namespace NumericField

open Extraction (unsigned unsigned_eq_ok_iff host_eq_ok_iff)

variable {field : NumericField} {path : List String} {s : Setting} {n : Int} {ns : List Int}
  {numeral : Numeral}

section Taken

theorem read_host (path : List String) (s : Setting) : listenHost.read path s =
    (Extraction.host path s).map fun host => .list (host.octets.map Int.ofNat) := rfl

theorem read_number (hfield : field ≠ listenHost) (path : List String) (s : Setting) :
    field.read path s = (unsigned field.bits path s).map fun (n : Nat) => .one n := by
  cases field with
  | listenHost => exact absurd rfl hfield
  | _ => rfl

theorem accepts_one_iff (hfield : field ≠ listenHost) :
    field.Accepts (.one n) ↔ 0 ≤ n ∧ n < twoTo field.bits := by
  cases field <;> first | exact absurd rfl hfield | simp [Accepts, Numeral.integers]

theorem not_accepts_list (hfield : field ≠ listenHost) : ¬ field.Accepts (.list ns) := by
  cases field <;> first | exact absurd rfl hfield | simp [Accepts]

theorem accepts_host_iff : listenHost.Accepts numeral ↔ ∃ a : HostAddress,
    numeral = .list (a.octets.map Int.ofNat) ∧ ∀ octet ∈ a.octets, octet < twoTo 8 := by
  constructor
  · rintro ⟨hrange, hlist⟩
    match numeral, hlist with
    | .list [a, b, c, d], _ =>
      simp only [Numeral.integers, bits, List.forall_mem_cons] at hrange
      obtain ⟨ha, hb, hc, hd, _⟩ := hrange
      refine ⟨⟨a.toNat, b.toNat, c.toNat, d.toNat⟩, ?_, ?_⟩
      · simp [HostAddress.octets, ha.1, hb.1, hc.1, hd.1]
      · simp only [HostAddress.octets, List.forall_mem_cons]
        exact ⟨by omega, by omega, by omega, by omega, by simp⟩
  · rintro ⟨a, rfl, hrange⟩
    refine ⟨fun n hn => ?_, rfl⟩
    obtain ⟨octet, hoctet, rfl⟩ := List.mem_map.mp hn
    have hlt := hrange octet hoctet
    rw [bits, Int.ofNat_eq_natCast]
    omega

/-- The address is taken from a list of four numbers in range. -/
theorem host_eq_ok_iff_of_short {a : HostAddress}
    (hshort : ∀ source items, s = .list source items → items.length ≤ 4) :
    Extraction.host path s = .ok a ↔ s.IsNumeral (.list (a.octets.map Int.ofNat)) ∧
      ∀ octet ∈ a.octets, octet < twoTo 8 := by
  rw [host_eq_ok_iff]
  constructor
  · rintro ⟨source, first, second, third, fourth, more, rfl, hvalues, hrange⟩
    have hlength := hshort source _ rfl
    simp only [List.length_cons] at hlength
    obtain rfl : more = [] := List.eq_nil_of_length_eq_zero (by omega)
    exact ⟨⟨source, _, rfl, by rw [hvalues, List.map_map]; rfl⟩, hrange⟩
  · rintro ⟨⟨source, items, rfl, hvalues⟩, hrange⟩
    rw [List.map_map] at hvalues
    have hlength : items.length = 4 := by
      simpa [HostAddress.octets] using congrArg List.length hvalues
    match items, hlength with
    | [first, second, third, fourth], _ =>
      exact ⟨source, first, second, third, fourth, [], rfl, hvalues, hrange⟩

/-- A setting is taken exactly if it is a number in range, and then as it is. Of the address this is
said as long as it has no more than four numbers. -/
theorem read_eq_ok_iff
    (hshort : field = listenHost → ∀ source items, s = .list source items → items.length ≤ 4) :
    field.read path s = .ok numeral ↔ s.IsNumeral numeral ∧ field.Accepts numeral := by
  by_cases hfield : field = listenHost
  · subst hfield
    rw [read_host, map_eq_ok_iff, accepts_host_iff]
    simp only [host_eq_ok_iff_of_short (hshort rfl)]
    constructor
    · rintro ⟨a, ⟨hvalue, hrange⟩, rfl⟩
      exact ⟨hvalue, a, rfl, hrange⟩
    · rintro ⟨hvalue, a, rfl, hrange⟩
      exact ⟨a, ⟨hvalue, hrange⟩, rfl⟩
  · rw [read_number hfield, map_eq_ok_iff]
    simp only [unsigned_eq_ok_iff]
    constructor
    · rintro ⟨n, ⟨hn, hlt⟩, rfl⟩
      exact ⟨hn, (accepts_one_iff hfield).mpr ⟨Int.natCast_nonneg n, by omega⟩⟩
    · rintro ⟨hvalue, haccepts⟩
      cases numeral with
      | list => exact absurd haccepts (not_accepts_list hfield)
      | one n =>
        obtain ⟨hpos, hlt⟩ := (accepts_one_iff hfield).mp haccepts
        obtain ⟨k, rfl⟩ := Int.eq_ofNat_of_zero_le hpos
        exact ⟨k, ⟨hvalue, by omega⟩, rfl⟩

theorem lt_word (field : NumericField) (hlt : n < twoTo field.bits) : n < twoTo 64 := by
  have hbits : twoTo field.bits ≤ twoTo 64 := by cases field <;> decide
  omega

/-- What a layer gives for a numeral that reads integers truthfully is no other numeral. -/
theorem eq_of_isNumeral_setting {scalar : Int → Scalar} {source : Source} {taken : Numeral}
    (hfaithful : ∀ n m, (scalar n).integer? = some m → m = n)
    (h : (numeral.setting source scalar).IsNumeral taken) : taken = numeral := by
  cases numeral with
  | one n =>
    cases taken with
    | one m => exact congrArg Numeral.one (hfaithful n m h)
    | list ms => obtain ⟨_, _, hlist, _⟩ := h; cases hlist
  | list ns =>
    cases taken with
    | one m => cases h
    | list ms =>
      obtain ⟨_, _, hlist, hvalues⟩ := h
      obtain ⟨rfl, rfl⟩ := Setting.list.inj hlist
      rw [List.map_map] at hvalues
      refine congrArg Numeral.list (List.ext_getElem? fun i => ?_)
      have hitem := congrArg (·[i]?) hvalues
      simp only [List.getElem?_map] at hitem
      cases hn : ns[i]? with
      | none => simpa [hn] using hitem.symm
      | some n =>
        cases hm : ms[i]? with
        | none => simp [hn, hm] at hitem
        | some m =>
          simp only [hn, hm, Option.map_some, Option.some.injEq, Function.comp_apply] at hitem
          rw [hfaithful n m hitem]

theorem isNumeral_setting {scalar : Int → Scalar} {source : Source}
    (hwords : ∀ n ∈ numeral.integers, (scalar n).integer? = some n) :
    (numeral.setting source scalar).IsNumeral numeral := by
  cases numeral with
  | one n => exact hwords n (List.mem_singleton_self n)
  | list ns =>
    refine ⟨source, _, rfl, ?_⟩
    rw [List.map_map]
    exact List.map_congr_left hwords

/-- A numeral is taken if it is in range, and then as it is written, of a layer that reads integers
truthfully as far as settings go. -/
theorem read_setting {scalar : Int → Scalar} {source : Source} {taken : Numeral}
    (hfaithful : ∀ n m, (scalar n).integer? = some m → m = n)
    (hwords : ∀ n : Int, 0 ≤ n → n < twoTo 64 → (scalar n).integer? = some n)
    (hshort : field = listenHost → numeral.integers.length ≤ 4) :
    field.read path (numeral.setting source scalar) = .ok taken ↔
      field.Accepts numeral ∧ taken = numeral := by
  rw [read_eq_ok_iff]
  · constructor
    · rintro ⟨hvalue, haccepts⟩
      obtain rfl := eq_of_isNumeral_setting hfaithful hvalue
      exact ⟨haccepts, rfl⟩
    · rintro ⟨haccepts, rfl⟩
      exact ⟨isNumeral_setting fun n hn =>
        hwords n (haccepts.1 n hn).1 (field.lt_word (haccepts.1 n hn).2), haccepts⟩
  · intro hfield source' items hitems
    cases numeral with
    | one n => cases hitems
    | list ns =>
      obtain ⟨_, rfl⟩ := Setting.list.inj hitems
      rw [List.length_map]
      exact hshort hfield

theorem read_of_variable (hshort : field = listenHost → numeral.integers.length ≤ 4)
    {taken : Numeral} :
    field.read path (numeral.setting .process Numeral.variableScalar) = .ok taken ↔
      field.Accepts numeral ∧ taken = numeral := by
  refine read_setting (fun n m h => ?_) (fun n hpos hlt => ?_) hshort
  · rw [Numeral.variableScalar] at h
    split at h
    next hn => simp only [Scalar.integer?, Option.some.injEq] at h; omega
    split at h
    · exact (Option.some.inj h).symm
    · cases h
  · rw [Numeral.variableScalar, if_pos ⟨hpos, hlt⟩]
    simp [Scalar.integer?, hpos]

theorem read_of_file {source : Source} (hshort : field = listenHost → numeral.integers.length ≤ 4)
    {taken : Numeral} :
    field.read path (numeral.setting source .signed) = .ok taken ↔
      field.Accepts numeral ∧ taken = numeral :=
  read_setting (fun _ _ h => (Option.some.inj h).symm) (fun _ _ _ => rfl) hshort

end Taken

end NumericField

end WaitingList
