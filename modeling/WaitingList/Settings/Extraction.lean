import WaitingList.Connection.Target
import WaitingList.Decimal.Binary64
import WaitingList.Email.Policy
import WaitingList.Net.HostAddress
import WaitingList.Settings.Mismatch

namespace WaitingList

/-- Where the service listens. -/
structure NetworkSettings where
  host : HostAddress
  port : Nat
  deriving DecidableEq, Repr

/-- How the connections to the store are pooled. -/
structure PoolSettings where
  maxConnections : Nat
  /-- How long a request waits for a connection. -/
  acquireTimeoutMillis : Nat
  /-- Whether the store is migrated before the service takes requests. -/
  migrateOnStart : Bool
  deriving DecidableEq, Repr

/-- The settings of the service. -/
structure Settings where
  network : NetworkSettings
  target : ConnectionTarget
  pool : PoolSettings
  emailPolicy : EmailPolicy
  deriving DecidableEq, Repr

namespace PoolSettings

/-- The seconds and nanoseconds that a request waits for a connection. -/
def acquireTimeout (pool : PoolSettings) : Nat × Nat :=
  (pool.acquireTimeoutMillis / 1000, pool.acquireTimeoutMillis % 1000 * 1000000)

end PoolSettings

namespace Extraction

/-- Reads a setting that stands at a path. -/
abbrev Reader (α : Type) := List String → Setting → Except Mismatch α

/-- A setting is of another kind than the one that is needed. -/
def wrongKind {α : Type} (expected : String) : Reader α := fun path setting =>
  .error ⟨.wrongKind setting.describe expected, path, some setting.source⟩

def text : Reader String := fun path setting =>
  match setting with
  | .scalar _ (.text s) => .ok s
  | .scalar _ (.char c) => .ok (String.singleton c)
  | _ => wrongKind "a string" path setting

/-- A truth value. -/
def boolean : Reader Bool := fun path setting =>
  match setting with
  | .scalar _ (.boolean b) => .ok b
  | _ => wrongKind "a boolean" path setting

/-- A whole number of at most `bits` bits, without a sign. -/
def unsigned (bits : Nat) : Reader Nat := fun path setting =>
  let expected := s!"u{bits}"
  let tooGreat : Except Mismatch Nat :=
    .error ⟨.outOfRange setting.describe expected, path, some setting.source⟩
  match setting with
  | .scalar _ (.unsigned n) => if n < twoTo bits then .ok n else tooGreat
  | .scalar _ (.signed n) => if 0 ≤ n ∧ n < twoTo bits then .ok n.toNat else tooGreat
  | _ => wrongKind expected path setting

/-- One of several names. A table stands for the first of its keys in order, but none of the names
takes a value. -/
def name {α : Type} (kind : String) (known : List (String × α)) : Reader α := fun path setting =>
  let lookUp := fun (written : String) (path : List String) (source : Source) =>
    match known.lookup written with
    | some value => Except.ok value
    | none => .error ⟨.unknownName written (known.map (·.1)), path, some source⟩
  match setting with
  | .scalar source (.text s) => lookUp s path source
  | .table source entries =>
    match entries.mergeSort (fun a b => a.1 ≤ b.1) with
    | [] => .error ⟨.wrongKind setting.describe "enum", path, some source⟩
    | (key, inner) :: _ => do
      let _ ← lookUp key (path ++ [key]) inner.source
      wrongKind "unit" (path ++ [key]) inner
  | _ => wrongKind s!"enum {kind}" path setting

/-- The value of a key, if the key is there. -/
def value? {α : Type} (read : Reader α) (key : String) (path : List String)
    (entries : List (String × Setting)) : Except Mismatch (Option α) :=
  match entries.lookup key with
  | none => .ok none
  | some setting => do return some (← read (path ++ [key]) setting)

/-- The value of a key that has to be there. -/
def required {α : Type} (key : String) (path : List String) (source : Option Source)
    (value : Option α) : Except Mismatch α :=
  match value with
  | some value => .ok value
  | none => .error ⟨.missing key, path, source⟩

/-- The value at a place of a list that has to be long enough. -/
def item {α : Type} (read : Reader α) (index : Nat) (expected : String) (path : List String)
    (source : Source) (items : List Setting) : Except Mismatch α :=
  match items[index]? with
  | some setting => read (path ++ [toString index]) setting
  | none => .error ⟨.wrongLength index expected, path, some source⟩

/-- The four numbers of an address. Further ones are passed over. -/
def host : Reader HostAddress := fun path setting =>
  let expected := "an array of length 4"
  match setting with
  | .list source items => do
    let octet := fun index => item (unsigned 8) index expected path source items
    return ⟨← octet 0, ← octet 1, ← octet 2, ← octet 3⟩
  | _ => wrongKind expected path setting

/-- Where the service listens. -/
def network : Reader NetworkSettings := fun path setting =>
  match setting with
  | .table source entries => do
    let port ← value? (unsigned 16) "app_port" path entries
    let address ← value? host "host" path entries
    let address ← required "host" path (some source) address
    let port ← required "app_port" path (some source) port
    return ⟨address, port⟩
  | .list source items => do
    let expected := "struct NetConfig with 2 elements"
    let address ← item host 0 expected path source items
    let port ← item (unsigned 16) 1 expected path source items
    return ⟨address, port⟩
  | _ => wrongKind "struct NetConfig" path setting

def sslMode : Reader SslMode := name "SslRequire" (SslMode.all.map fun mode => (mode.name, mode))

/-- Where the store is. -/
def target : Reader ConnectionTarget := fun path setting =>
  match setting with
  | .table source entries => do
    let database ← value? text "db_name" path entries
    let host ← value? text "host" path entries
    let password ← value? text "password" path entries
    let port ← value? (unsigned 16) "port" path entries
    let mode ← value? sslMode "require_ssl" path entries
    let username ← value? text "username" path entries
    let username ← required "username" path (some source) username
    let password ← required "password" path (some source) password
    let port ← required "port" path (some source) port
    let host ← required "host" path (some source) host
    let database ← required "db_name" path (some source) database
    let mode ← required "require_ssl" path (some source) mode
    return ⟨username, password, port, host, database, mode⟩
  | .list source items => do
    let expected := "struct DbConfig with 6 elements"
    let username ← item text 0 expected path source items
    let password ← item text 1 expected path source items
    let port ← item (unsigned 16) 2 expected path source items
    let host ← item text 3 expected path source items
    let database ← item text 4 expected path source items
    let mode ← item sslMode 5 expected path source items
    return ⟨username, password, port, host, database, mode⟩
  | _ => wrongKind "struct DbConfig" path setting

def pool : Reader PoolSettings := fun path setting =>
  match setting with
  | .table source entries => do
    let timeout ← value? (unsigned 64) "acquire_timeout_millis" path entries
    let connections ← value? (unsigned 32) "max_connections" path entries
    let migrates ← value? boolean "migrate_on_start" path entries
    let connections ← required "max_connections" path (some source) connections
    let timeout ← required "acquire_timeout_millis" path (some source) timeout
    let migrates ← required "migrate_on_start" path (some source) migrates
    return ⟨connections, timeout, migrates⟩
  | .list source items => do
    let expected := "struct PoolConfig with 3 elements"
    let connections ← item (unsigned 32) 0 expected path source items
    let timeout ← item (unsigned 64) 1 expected path source items
    let migrates ← item boolean 2 expected path source items
    return ⟨connections, timeout, migrates⟩
  | _ => wrongKind "struct PoolConfig" path setting

def emailPolicy : Reader EmailPolicy :=
  name "EmailPolicy" ([EmailPolicy.minimal, .strict].map fun policy => (policy.name, policy))

/-- The policy of submissions, which need not be set. -/
def submissions : Reader EmailPolicy := fun path setting =>
  match setting with
  | .table _ entries => do
    return (← value? emailPolicy "email_policy" path entries).getD .minimal
  | .list _ items =>
    match items with
    | [] => .ok .minimal
    | first :: _ => emailPolicy (path ++ ["0"]) first
  | _ => wrongKind "struct SubscribeConfig" path setting

/-- The settings that the entries of a tree amount to. The first mismatch ends the extraction:
values are judged in the order of their names, and only then missing ones are told of. -/
def settings (entries : List (String × Setting)) : Except Mismatch Settings := do
  let connection ← value? target "db_config" [] entries
  let listener ← value? network "net_config" [] entries
  let connections ← value? pool "pool_config" [] entries
  let policy ← value? submissions "subscribe_config" [] entries
  let listener ← required "net_config" [] none listener
  let connection ← required "db_config" [] none connection
  let connections ← required "pool_config" [] none connections
  return ⟨listener, connection, connections, policy.getD .minimal⟩

end Extraction

end WaitingList
