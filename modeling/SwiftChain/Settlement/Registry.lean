import SwiftChain.Settlement.Contract
import SwiftChain.Core.History
import SwiftChain.Core.Registers

/-!
# The registry behind the settlement contract

The five untyped entries of the storage stand for a `Registry`: an admin, and a set of assets that
are switched on.  `encode` writes a registry down, and `exec_encode` says that the contract works on
the storage as `Registry.exec` works on the registry, with the same errors.  No key is ever read at
the wrong type, because `asset_key` gives every asset a key of its own and none of them the key of
the admin.

A run of the contract is one `init` and after it calls of `set_supported_asset` that the admin of
that `init` has signed (`run_shape`), so what is supported is what that admin has last said
(`supported_is_last_set`).
-/

namespace SwiftChain.Settlement

open TransitionSystem Abort

/-! ## The abstract registry -/

/-- The admin and the assets that are switched on. -/
structure Registry where
  admin : Address
  supported : SupportedAsset → Bool

/-- What the entry points do to a registry, or to none. -/
def Registry.exec (op : Op) (env : Env) (r : Option Registry) : Except Panic Registry :=
  match op, r with
  | .init admin, none => .ok ⟨admin, fun _ => false⟩
  | .init _, some _ => .error SettlementError.alreadyInitialized.panic
  | .setSupportedAsset admin asset flag, r =>
      if admin ∈ env.auths then
        match r with
        | none => .error SettlementError.notInitialized.panic
        | some r =>
            if r.admin = admin then
              .ok { r with supported := Function.update r.supported asset flag }
            else .error SettlementError.unauthorized.panic
      else .error (.auth admin)

/-- The assets that are switched on; none before `init`. -/
def flags (r : Option Registry) (asset : SupportedAsset) : Bool :=
  r.elim false fun r => r.supported asset

/-- How a registry is stored: nothing at all before `init`, five entries afterwards. -/
def encode : Option Registry → Storage
  | none => ∅
  | some r =>
      (((((∅ : Storage).insert .admin (.address r.admin)).insert .xlm
        (.bool (r.supported .xlm))).insert .usdc (.bool (r.supported .usdc))).insert .ngnc
          (.bool (r.supported .ngnc))).insert .kes (.bool (r.supported .kes))

section Encode

variable {r : Registry}

@[simp] lemma lookup_encode_none (key : DataKey) : (encode none).lookup key = none := rfl

@[simp] lemma lookup_encode_admin : (encode (some r)).lookup .admin = some (.address r.admin) := by
  simp [encode, Finmap.lookup_insert_of_ne]

@[simp] lemma lookup_encode_assetKey (asset : SupportedAsset) :
    (encode (some r)).lookup (assetKey asset) = some (.bool (r.supported asset)) := by
  cases asset <;> simp [encode, assetKey, Finmap.lookup_insert_of_ne]

/-- Every key is the admin's or that of one asset. -/
lemma DataKey.cases (key : DataKey) : key = .admin ∨ ∃ asset, key = assetKey asset := by
  cases key with
  | admin => exact Or.inl rfl
  | xlm => exact Or.inr ⟨.xlm, rfl⟩
  | usdc => exact Or.inr ⟨.usdc, rfl⟩
  | ngnc => exact Or.inr ⟨.ngnc, rfl⟩
  | kes => exact Or.inr ⟨.kes, rfl⟩

lemma assetKey_injective : Function.Injective assetKey := by
  intro a b h
  cases a <;> cases b <;> first | rfl | cases h

lemma assetKey_ne_admin (asset : SupportedAsset) : assetKey asset ≠ .admin := by
  cases asset <;> simp [assetKey]

/-- Writing the entry of one asset writes that asset of the registry. -/
lemma insert_encode (asset : SupportedAsset) (flag : Bool) :
    (encode (some r)).insert (assetKey asset) (.bool flag)
      = encode (some { r with supported := Function.update r.supported asset flag }) := by
  refine Finmap.ext_lookup fun key => ?_
  rcases key.cases with rfl | ⟨other, rfl⟩
  · rw [Finmap.lookup_insert_of_ne _ (assetKey_ne_admin asset).symm]
    simp
  · by_cases hsame : other = asset
    · subst hsame
      simp
    · rw [Finmap.lookup_insert_of_ne _ (assetKey_injective.ne hsame)]
      simp [Function.update_of_ne hsame]

/-- The storage says which registry it stands for. -/
lemma encode_injective : Function.Injective encode := by
  intro r r' h
  cases r with
  | none =>
      cases r' with
      | none => rfl
      | some r' => exact absurd (congrArg (Finmap.lookup DataKey.admin) h) (by simp)
  | some r =>
      cases r' with
      | none => exact absurd (congrArg (Finmap.lookup DataKey.admin) h) (by simp)
      | some r' =>
          have hadmin : r.admin = r'.admin := by
            simpa using congrArg (Finmap.lookup DataKey.admin) h
          have hsupported : r.supported = r'.supported := by
            funext asset
            simpa using congrArg (Finmap.lookup (assetKey asset)) h
          cases r
          cases r'
          cases hadmin
          cases hsupported
          rfl

end Encode

/-! ## The contract on a stored registry -/

@[simp] lemma getAddress_encode (r : Option Registry) :
    (encode r).getAddress .admin = .ok (r.map (·.admin)) := by
  cases r <;> simp [Storage.getAddress]

lemma requireAdmin_encode (r : Option Registry) (caller : Address) :
    requireAdmin caller (encode r) = match r with
      | none => .error SettlementError.notInitialized.panic
      | some r =>
          if r.admin = caller then .ok () else .error SettlementError.unauthorized.panic := by
  cases r with
  | none => simp [requireAdmin, okOr, bind, Except.bind]
  | some r =>
      by_cases hcaller : r.admin = caller
      · simp [requireAdmin, okOr, bind, Except.bind, panicIf, hcaller]
      · simp [requireAdmin, okOr, bind, Except.bind, panicIf, hcaller]

/-- **The contract works on the storage as the registry prescribes**, and fails with the errors that
it prescribes. -/
theorem exec_encode (op : Op) (env : Env) (r : Option Registry) :
    exec op env (encode r) = (Registry.exec op env r).map fun r => encode (some r) := by
  cases op with
  | init admin =>
      cases r with
      | none => rfl
      | some r =>
          have hmem : DataKey.admin ∈ encode (some r) :=
            Finmap.lookup_isSome.mp (by simp)
          simp [exec, init, panicIf, hmem, Registry.exec, bind, Except.bind, Except.map]
  | setSupportedAsset admin asset flag =>
      by_cases hauth : admin ∈ env.auths
      · cases r with
        | none =>
            simp [exec, setSupportedAsset, Env.requireAuth, panicIf, hauth, requireAdmin_encode,
              Registry.exec, bind, Except.bind, Except.map]
        | some r =>
            by_cases hcaller : r.admin = admin
            · simp [exec, setSupportedAsset, Env.requireAuth, panicIf, hauth, requireAdmin_encode,
                Registry.exec, bind, Except.bind, Except.map, hcaller, pure, Except.pure,
                insert_encode]
            · simp [exec, setSupportedAsset, Env.requireAuth, panicIf, hauth, requireAdmin_encode,
                Registry.exec, bind, Except.bind, Except.map, hcaller]
      · simp [exec, setSupportedAsset, Env.requireAuth, panicIf, hauth, Registry.exec, bind,
          Except.bind, Except.map]

/-- What `is_supported` says about a stored registry. -/
theorem isSupported_encode (asset : SupportedAsset) (r : Option Registry) :
    isSupported asset (encode r) = .ok (flags r asset) := by
  cases r <;> simp [isSupported, Storage.getBool, bind, Except.bind, pure, Except.pure, flags]

/-- What `get_admin` says about it. -/
theorem getAdmin_encode (r : Option Registry) :
    getAdmin (encode r) = okOr (r.map (·.admin)) SettlementError.notInitialized.panic := by
  simp [getAdmin, bind, Except.bind]

/-! ## Runs -/

/-- A signed call. -/
structure Label where
  timestamp : UInt64
  auths : Finset Address
  op : Op

/-- The contract at the address `contract`, from its deployment on. -/
def system (contract : Address) : TransitionSystem Storage Label where
  start s := s = ∅
  step s l s' := exec l.op ⟨contract, l.timestamp, l.auths⟩ s = .ok s'

/-- The flags that a call sets. -/
def Label.sets (l : Label) : List (SupportedAsset × Bool) :=
  match l.op with
  | .init _ => []
  | .setSupportedAsset _ asset flag => [(asset, flag)]

/-- Carrying out a call. -/
def advance (contract : Address) (s : Storage) (l : Label) : Option Storage :=
  (exec l.op ⟨contract, l.timestamp, l.auths⟩ s).toOption

theorem advance_sound {contract : Address} (s : Storage) (l : Label) (s' : Storage)
    (h : advance contract s l = some s') : (system contract).step s l s' :=
  toOption_eq_some_iff.mp h

section Runs

variable {contract : Address} {ok : Storage → Label → Prop} {s s' : Storage} {l : Label}
  {ls : List Label}

/-- A call of a stored registry has stored one. -/
lemma exists_of_step {r : Option Registry} (hstep : (system contract).step (encode r) l s') :
    ∃ r', Registry.exec l.op ⟨contract, l.timestamp, l.auths⟩ r = .ok r' ∧
      s' = encode (some r') := by
  have hexec : exec l.op ⟨contract, l.timestamp, l.auths⟩ (encode r) = .ok s' := hstep
  rw [exec_encode] at hexec
  obtain ⟨r', hr', hs'⟩ := map_ok_iff.mp hexec
  exact ⟨r', hr', hs'.symm⟩

lemma stored_step (hs : ∃ r, s = encode r) (hstep : (system contract).step s l s') :
    ∃ r, s' = encode r := by
  obtain ⟨r, rfl⟩ := hs
  obtain ⟨r', _, rfl⟩ := exists_of_step hstep
  exact ⟨some r', rfl⟩

lemma reach_encode (h : (system contract).Reach ok s) : ∃ r, s = encode r := by
  refine h.invariant (P := fun s => ∃ r, s = encode r) ?_ fun _ _ _ hs _ => stored_step hs
  rintro s rfl
  exact ⟨none, rfl⟩

/-- **The storage is a registry.**  Wherever calls lead, what is stored is one registry written
down; every call does to it what it does to the registry, or fails with the same error, and the two
views read it back. -/
theorem storage_refines_registry (h : (system contract).Reach ok s) :
    ∃ r, s = encode r ∧ (∀ r', s = encode r' → r' = r) ∧
      (∀ op env, exec op env s = (Registry.exec op env r).map fun r => encode (some r)) ∧
      (∀ asset, isSupported asset s = .ok (flags r asset)) ∧
      getAdmin s = okOr (r.map (·.admin)) SettlementError.notInitialized.panic := by
  obtain ⟨r, rfl⟩ := reach_encode h
  exact ⟨r, rfl, fun r' h' => (encode_injective h').symm, fun op env => exec_encode op env r,
    fun asset => isSupported_encode asset r, getAdmin_encode r⟩

/-- What has been called: nothing, or `init` and then what its admin has signed. -/
def Shape (ls : List Label) (r : Option Registry) : Prop :=
  match r with
  | none => ls = []
  | some r => ∃ l₀ rest, ls = l₀ :: rest ∧ l₀.op = .init r.admin ∧
      ∀ l ∈ rest, r.admin ∈ l.auths ∧
        ∃ asset flag, l.op = .setSupportedAsset r.admin asset flag

/-- One more call. -/
lemma Shape.step {r : Option Registry} {r' : Registry} {env : Env} (h : Shape ls r)
    (henv : env.auths = l.auths) (hexec : Registry.exec l.op env r = .ok r') :
    Shape (ls ++ [l]) (some r') := by
  obtain ⟨t, auths, op⟩ := l
  cases op with
  | init admin =>
      cases r with
      | none =>
          obtain rfl := Except.ok.inj hexec
          obtain rfl : ls = [] := h
          exact ⟨_, [], rfl, rfl, by simp⟩
      | some r => cases hexec
  | setSupportedAsset admin asset flag =>
      simp only [Registry.exec] at hexec
      split_ifs at hexec with hauth
      cases r with
      | none => cases hexec
      | some r =>
          simp only at hexec
          split_ifs at hexec with hadmin
          obtain rfl := Except.ok.inj hexec
          obtain ⟨l₀, rest, rfl, hinit, hrest⟩ := h
          refine ⟨l₀, rest ++ [_], rfl, hinit, ?_⟩
          intro k hk
          rcases List.mem_append.mp hk with hk | hk
          · exact hrest k hk
          · obtain rfl := List.mem_singleton.mp hk
            subst hadmin
            exact ⟨henv ▸ hauth, asset, flag, rfl⟩

/-- Every run has that shape. -/
lemma run_shape (h : (system contract).Run ok ∅ ls s) : ∃ r, s = encode r ∧ Shape ls r := by
  refine h.history (P := fun ls s => ∃ r, s = encode r ∧ Shape ls r) ⟨none, rfl, rfl⟩ ?_
  rintro ls s l s' _ ⟨r, rfl, hshape⟩ _ hstep
  obtain ⟨r', hexec, rfl⟩ := exists_of_step hstep
  exact ⟨some r', rfl, hshape.step rfl hexec⟩

/-- What a call does to the flags. -/
lemma flags_exec {r : Option Registry} {r' : Registry} {env : Env}
    (h : Registry.exec l.op env r = .ok r') : flags (some r') = overwrite (flags r) l.sets := by
  obtain ⟨t, auths, op⟩ := l
  cases op with
  | init admin =>
      cases r with
      | none =>
          obtain rfl := Except.ok.inj h
          rfl
      | some r => cases h
  | setSupportedAsset admin asset flag =>
      simp only [Registry.exec] at h
      split_ifs at h
      cases r with
      | none => cases h
      | some r =>
          simp only at h
          split_ifs at h
          obtain rfl := Except.ok.inj h
          rfl

/-- Whether an asset is supported, which a stored registry always says. -/
def supports (s : Storage) (asset : SupportedAsset) : Bool :=
  (isSupported asset s).toOption.getD false

lemma supports_encode (r : Option Registry) : supports (encode r) = flags r := by
  funext asset
  rw [supports, isSupported_encode]
  rfl

/-- Stored flags are overwritten by the calls that set them. -/
def flagRegisters (contract : Address) :
    Registers (system contract) (fun s _ => ∃ r, s = encode r) SupportedAsset Bool where
  read := supports
  writes := Label.sets
  written := by
    rintro _ l s' ⟨r, rfl⟩ hstep
    obtain ⟨r', hexec, rfl⟩ := exists_of_step hstep
    rw [supports_encode, supports_encode, flags_exec hexec]

/-- **An asset is supported if the admin has said so last.**  Every run begins with the `init` of
one admin, who stays the admin for good and has signed every call that follows; and `is_supported`
answers what the last of these calls about the asset has said, or `false` if there was none. -/
theorem supported_is_last_set (hrun : (system contract).Run ok ∅ ls s) :
    (ls = [] ∨ ∃ l₀ rest admin, ls = l₀ :: rest ∧ l₀.op = .init admin ∧ getAdmin s = .ok admin ∧
      ∀ l ∈ rest, admin ∈ l.auths ∧ ∃ asset flag, l.op = .setSupportedAsset admin asset flag) ∧
    ∀ asset, isSupported asset s = .ok ((lastWrite asset (ls.flatMap Label.sets)).getD false) := by
  obtain ⟨r, rfl, hshape⟩ := run_shape hrun
  constructor
  · cases r with
    | none => exact Or.inl hshape
    | some r =>
        obtain ⟨l₀, rest, rfl, hinit, hrest⟩ := hshape
        exact Or.inr ⟨l₀, rest, r.admin, rfl, hinit, getAdmin_encode (some r), hrest⟩
  · intro asset
    have hstored := hrun.with_invariant (P := fun s => ∃ r, s = encode r)
      (fun _ _ _ hs _ hstep => stored_step hs hstep) ⟨none, rfl⟩
    have hlast := (hstored.mono fun _ _ h => h.2).read_eq_lastWrite (flagRegisters contract) asset
    have hread : flags r asset
        = (lastWrite asset (ls.flatMap Label.sets)).getD (flags none asset) := by
      rw [← supports_encode, ← supports_encode]
      exact hlast
    rw [isSupported_encode, hread]
    rfl

end Runs

/-- The admin `1` switches two assets on and one of them off again. -/
def toggle : List Label :=
  [⟨10, ∅, .init 1⟩, ⟨20, {1}, .setSupportedAsset 1 .xlm true⟩,
    ⟨30, {1}, .setSupportedAsset 1 .usdc true⟩, ⟨40, {1}, .setSupportedAsset 1 .xlm false⟩]

theorem storage_refines_registry_toggle :
    ∃ s r, toggle.foldlM (guarded (fun _ _ => True) (advance 100)) ∅ = some s ∧
      s = encode r ∧ ∀ asset, isSupported asset s = .ok (flags r asset) := by
  obtain ⟨s, hs⟩ := Option.isSome_iff_exists.mp
    (show (toggle.foldlM (guarded (fun _ _ => True) (advance 100)) ∅).isSome = true by
      decide +kernel)
  obtain ⟨r, hr, _, _, hflags, _⟩ :=
    storage_refines_registry ⟨∅, toggle, rfl, Run.of_foldlM advance_sound _ hs⟩
  exact ⟨s, r, hs, hr, hflags⟩

theorem supported_is_last_set_toggle :
    ∃ s, toggle.foldlM (guarded (fun _ _ => True) (advance 100)) ∅ = some s ∧
      isSupported .xlm s = .ok false ∧ isSupported .usdc s = .ok true ∧
        isSupported .kes s = .ok false := by
  obtain ⟨s, hs⟩ := Option.isSome_iff_exists.mp
    (show (toggle.foldlM (guarded (fun _ _ => True) (advance 100)) ∅).isSome = true by
      decide +kernel)
  have hlast := (supported_is_last_set (Run.of_foldlM advance_sound _ hs)).2
  exact ⟨s, hs, hlast .xlm, hlast .usdc, hlast .kes⟩

end SwiftChain.Settlement
