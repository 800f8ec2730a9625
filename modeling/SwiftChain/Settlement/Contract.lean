import SwiftChain.Host.Env
import Mathlib.Data.Finmap

/-!
# The settlement contract

`contracts/settlement_contract/lib.rs`, which is what its `Cargo.toml` compiles.  The contract keeps
its admin and one flag for each asset under the five keys of one enumeration, next to each other in
the instance storage.  That storage is untyped: `get` reads whatever is stored under a key and
panics if it is not of the type that the caller expects.
-/

namespace SwiftChain.Settlement

open Abort

/-- `SupportedAsset`. -/
inductive SupportedAsset
  | xlm
  | usdc
  | ngnc
  | kes
  deriving DecidableEq

/-- `DataKey`. -/
inductive DataKey
  | admin
  | xlm
  | usdc
  | ngnc
  | kes
  deriving DecidableEq

/-- `SettlementError`, with its `repr(u32)` discriminants in `code`. -/
inductive SettlementError
  | alreadyInitialized
  | notInitialized
  | unauthorized
  deriving DecidableEq

def SettlementError.code : SettlementError → UInt32
  | .alreadyInitialized => 1
  | .notInitialized => 2
  | .unauthorized => 3

/-- `panic_with_error!(env, e)`. -/
def SettlementError.panic (e : SettlementError) : Panic := .contract e.code

/-! ## The instance storage -/

/-- What the contract puts into its storage. -/
inductive Value
  | address (a : Address)
  | bool (b : Bool)
  deriving DecidableEq

/-- The instance storage. -/
abbrev Storage := Finmap fun _ : DataKey => Value

/-- What `get` panics with when it finds a value of another type. -/
def conversionError : Panic := .message "ConversionError"

/-- `get::<DataKey, Address>(&key)`. -/
def Storage.getAddress (s : Storage) (key : DataKey) : Except Panic (Option Address) :=
  match s.lookup key with
  | none => .ok none
  | some (.address a) => .ok (some a)
  | some (.bool _) => .error conversionError

/-- `get::<DataKey, bool>(&key)`. -/
def Storage.getBool (s : Storage) (key : DataKey) : Except Panic (Option Bool) :=
  match s.lookup key with
  | none => .ok none
  | some (.bool b) => .ok (some b)
  | some (.address _) => .error conversionError

/-! ## The entry points -/

/-- `asset_key`. -/
def assetKey : SupportedAsset → DataKey
  | .xlm => .xlm
  | .usdc => .usdc
  | .ngnc => .ngnc
  | .kes => .kes

/-- `require_admin`. -/
def requireAdmin (caller : Address) (s : Storage) : Except Panic Unit := do
  let storedAdmin ← okOr (← s.getAddress .admin) SettlementError.notInitialized.panic
  panicIf (storedAdmin ≠ caller) SettlementError.unauthorized.panic

/-- `init`. -/
def init (admin : Address) (s : Storage) : Except Panic Storage := do
  panicIf (DataKey.admin ∈ s) SettlementError.alreadyInitialized.panic
  let s := s.insert .admin (.address admin)
  let s := s.insert .xlm (.bool false)
  let s := s.insert .usdc (.bool false)
  let s := s.insert .ngnc (.bool false)
  return s.insert .kes (.bool false)

/-- `set_supported_asset`. -/
def setSupportedAsset (env : Env) (admin : Address) (asset : SupportedAsset) (supported : Bool)
    (s : Storage) : Except Panic Storage := do
  env.requireAuth admin
  requireAdmin admin s
  return s.insert (assetKey asset) (.bool supported)

/-- `is_supported`. -/
def isSupported (asset : SupportedAsset) (s : Storage) : Except Panic Bool := do
  return (← s.getBool (assetKey asset)).getD false

/-- `get_admin`. -/
def getAdmin (s : Storage) : Except Panic Address := do
  okOr (← s.getAddress .admin) SettlementError.notInitialized.panic

/-! ## Calls -/

/-- The entry points that can change the storage, with their arguments. -/
inductive Op
  | init (admin : Address)
  | setSupportedAsset (admin : Address) (asset : SupportedAsset) (supported : Bool)
  deriving DecidableEq

/-- Calling an entry point. -/
def exec (op : Op) (env : Env) (s : Storage) : Except Panic Storage :=
  match op with
  | .init admin => init admin s
  | .setSupportedAsset admin asset supported => setSupportedAsset env admin asset supported s

end SwiftChain.Settlement
