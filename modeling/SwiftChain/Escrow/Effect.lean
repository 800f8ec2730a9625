import SwiftChain.Escrow.Spec
import SwiftChain.Core.TransitionSystem

/-!
# What a step of the escrow contract can do

Eleven entry points, but only a handful of things can happen to the escrows: nothing
(`configure`, `idle`), a fresh record (`create`), a `Locked` record paused by one of its parties or
by anybody (`raise`, `freeze`), or an open record settled (`settle`).  `exec_effect` says which
entry point does which, with every guard it has passed and everything it has written; the
invariants of the contract are case analyses of `Effect` and never unfold an entry point again.

The five ways to settle a record are the constructors of `Settlement`, and `Change` reads an effect
from the point of view of one record.

`system T self` puts the calls into a transition system, together with what the rest of the ledger
may do to the tokens meanwhile: anything that does not lower the contract's own balances.
-/

namespace SwiftChain.Escrow

variable {T : Token}

/-- Who runs the contract and under which configuration: the instance storage. -/
def State.authority (s : State T) : Option Address × Option Address × Option ProtocolConfig :=
  (s.admin, s.pendingAdmin, s.protocolConfig)

/-- The fee in force is read from the configuration alone. -/
lemma State.platformFeeBps_congr {s s' : State T} (h : s'.protocolConfig = s.protocolConfig) :
    s'.platformFeeBps = s.platformFeeBps := by
  rw [State.platformFeeBps, State.platformFeeBps, h]

/-- Who keeps the authority keeps the fee in force. -/
lemma State.platformFeeBps_of_authority {s s' : State T} (h : s'.authority = s.authority) :
    s'.platformFeeBps = s.platformFeeBps :=
  State.platformFeeBps_congr (congrArg (fun x => x.2.2) h)

/-- The escrow an entry point works on. -/
def Op.deliveryId : Op → Option UInt64
  | .init _ _ _ => none
  | .updatePlatformFee _ _ => none
  | .proposeAdmin _ _ => none
  | .acceptAdmin _ => none
  | .createEscrow _ _ _ id _ _ => some id
  | .releaseEscrow _ id => some id
  | .refundEscrow _ id => some id
  | .raiseDispute _ id => some id
  | .resolveDispute _ id _ => some id
  | .resolveDisputeSplit _ id _ => some id
  | .freezeFunds id => some id

/-- A record whose money is still in the contract. -/
def Open (status : EscrowState) : Prop := status = .locked ∨ status = .paused

/-- A record whose money has been paid out. -/
def Settled (status : EscrowState) : Prop := status = .released ∨ status = .refunded

instance (status : EscrowState) : Decidable (Open status) := inferInstanceAs (Decidable (_ ∨ _))

instance (status : EscrowState) : Decidable (Settled status) := inferInstanceAs (Decidable (_ ∨ _))

theorem settled_iff_not_open {status : EscrowState} : Settled status ↔ ¬ Open status := by
  cases status <;> simp [Settled, Open]

/-! ## The five ways to settle a record -/

/-- `Settlement env admin feeBps id r op status trs`: under the given admin and fee, the entry point
`op` settles the record `r` of `id` into `status` by the transfers `trs`. -/
inductive Settlement (env : Env) (admin : Address) (feeBps : UInt32) (id : UInt64)
    (r : EscrowRecord) : Op → EscrowState → List Transfer → Prop
  | release {caller : Address} (hauth : caller ∈ env.auths)
      (hcaller : caller = admin ∨ caller = r.recipient) (hlocked : r.status = .locked) :
      Settlement env admin feeBps id r (.releaseEscrow caller id) .released
        (driverPayout env.currentContract admin feeBps r)
  | refund {caller : Address} (hauth : caller ∈ env.auths)
      (hcaller : caller = admin ∨ caller = r.sender) (hopen : Open r.status) :
      Settlement env admin feeBps id r (.refundEscrow caller id) .refunded
        (refundPayout env.currentContract r)
  | award (hauth : admin ∈ env.auths) (hpaused : r.status = .paused) :
      Settlement env admin feeBps id r (.resolveDispute admin id true) .released
        (driverPayout env.currentContract admin feeBps r)
  | giveBack (hauth : admin ∈ env.auths) (hpaused : r.status = .paused) :
      Settlement env admin feeBps id r (.resolveDispute admin id false) .refunded
        (refundPayout env.currentContract r)
  | split {share : UInt32} (hauth : admin ∈ env.auths) (hpaused : r.status = .paused)
      (hshare : share ≤ 10000) :
      Settlement env admin feeBps id r (.resolveDisputeSplit admin id share) .refunded
        (splitPayout env.currentContract share r)

namespace Settlement

variable {env : Env} {admin : Address} {feeBps : UInt32} {id : UInt64} {r : EscrowRecord} {op : Op}
  {status : EscrowState} {trs : List Transfer}

theorem wasOpen (h : Settlement env admin feeBps id r op status trs) : Open r.status := by
  cases h with
  | release _ _ hlocked => exact Or.inl hlocked
  | refund _ _ hopen => exact hopen
  | award _ hpaused => exact Or.inr hpaused
  | giveBack _ hpaused => exact Or.inr hpaused
  | split _ hpaused _ => exact Or.inr hpaused

theorem settled (h : Settlement env admin feeBps id r op status trs) : Settled status := by
  cases h with
  | release => exact Or.inl rfl
  | refund => exact Or.inr rfl
  | award => exact Or.inl rfl
  | giveBack => exact Or.inr rfl
  | split => exact Or.inr rfl

theorem deliveryId_eq (h : Settlement env admin feeBps id r op status trs) :
    op.deliveryId = some id := by
  cases h <;> rfl

/-- Who had to sign: the admin, or one of the parties on its own path. -/
theorem signed (h : Settlement env admin feeBps id r op status trs) :
    admin ∈ env.auths ∨
      (op = .releaseEscrow r.recipient id ∧ r.recipient ∈ env.auths ∧ r.status = .locked) ∨
      (op = .refundEscrow r.sender id ∧ r.sender ∈ env.auths) := by
  cases h with
  | release hauth hcaller hlocked =>
      rcases hcaller with rfl | rfl
      · exact Or.inl hauth
      · exact Or.inr (Or.inl ⟨rfl, hauth, hlocked⟩)
  | refund hauth hcaller _ =>
      rcases hcaller with rfl | rfl
      · exact Or.inl hauth
      · exact Or.inr (Or.inr ⟨rfl, hauth⟩)
  | award hauth _ => exact Or.inl hauth
  | giveBack hauth _ => exact Or.inl hauth
  | split hauth _ _ => exact Or.inl hauth

end Settlement

/-! ## The effects -/

/-- What the administrative entry points make of the instance storage. -/
inductive Configuration (env : Env) (s : State T) :
    Op → Option Address × Option Address × Option ProtocolConfig → Prop
  | init {admin token : Address} {fee : UInt32} (hnew : s.admin = none) :
      Configuration env s (.init admin token fee)
        (some admin, s.pendingAdmin, some ⟨token, fee, protocolVersion⟩)
  | setFee {admin : Address} {fee : UInt32} {config : ProtocolConfig}
      (hauth : admin ∈ env.auths) (hadmin : s.admin = some admin) (hcap : fee ≤ 1000)
      (hconfig : s.protocolConfig = some config) :
      Configuration env s (.updatePlatformFee admin fee)
        (s.admin, s.pendingAdmin, some { config with platformFeeBps := fee })
  | propose {admin new : Address} (hauth : admin ∈ env.auths) (hadmin : s.admin = some admin) :
      Configuration env s (.proposeAdmin admin new) (s.admin, some new, s.protocolConfig)
  | accept {old new : Address} (hauth : new ∈ env.auths) (hadmin : s.admin = some old)
      (hpending : s.pendingAdmin = some new) :
      Configuration env s (.acceptAdmin new) (some new, none, s.protocolConfig)

/-- Administration concerns no escrow in particular. -/
theorem Configuration.deliveryId_eq {env : Env} {s : State T} {op : Op}
    {authority : Option Address × Option Address × Option ProtocolConfig}
    (h : Configuration env s op authority) : op.deliveryId = none := by
  cases h <;> rfl

/-- What the entry point `op` has done to the state `s` when it has left `s'`. -/
inductive Effect (env : Env) (s : State T) : Op → State T → Prop
  /-- The instance storage has changed, the escrows and the money have not. -/
  | configure {op : Op} {s' : State T} (hconfig : Configuration env s op s'.authority)
      (hescrows : s'.escrows = s.escrows) (htokens : s'.tokens = s.tokens)
      (htransfers : s'.transfers = s.transfers) : Effect env s op s'
  /-- A fresh record, with its amount paid in. -/
  | create {sender recipient driver token : Address} {amount : I128} {id : UInt64}
      {s' : State T} (hauth : sender ∈ env.auths) (hnew : s.escrows.lookup id = none)
      (hauthority : s'.authority = s.authority)
      (hescrows : s'.escrows
        = s.escrows.insert id (newRecord env sender recipient driver token amount))
      (htokens : T.transferAll s.tokens [⟨token, sender, env.currentContract, amount⟩]
        = some s'.tokens)
      (htransfers : s'.transfers
        = s.transfers ++ [⟨token, sender, env.currentContract, amount⟩]) :
      Effect env s (.createEscrow sender recipient driver id token amount) s'
  /-- A party has paused a `Locked` record. -/
  | raise {caller : Address} {id : UInt64} {r : EscrowRecord} {s' : State T}
      (hauth : caller ∈ env.auths) (hlookup : s.escrows.lookup id = some r)
      (hcaller : caller = r.sender ∨ caller = r.recipient) (hlocked : r.status = .locked)
      (hauthority : s'.authority = s.authority)
      (hescrows : s'.escrows = s.escrows.insert id
        { r with
          status := .paused
          disputedBy := some caller
          disputedAt := some env.timestamp })
      (htokens : s'.tokens = s.tokens) (htransfers : s'.transfers = s.transfers) :
      Effect env s (.raiseDispute caller id) s'
  /-- Somebody has paused a `Locked` record. -/
  | freeze {id : UInt64} {r : EscrowRecord} {s' : State T}
      (hlookup : s.escrows.lookup id = some r) (hlocked : r.status = .locked)
      (hauthority : s'.authority = s.authority)
      (hescrows : s'.escrows = s.escrows.insert id
        { r with status := .paused, disputedAt := some env.timestamp })
      (htokens : s'.tokens = s.tokens) (htransfers : s'.transfers = s.transfers) :
      Effect env s (.freezeFunds id) s'
  /-- Freezing a record that is not `Locked` does nothing. -/
  | idle {id : UInt64} {r : EscrowRecord} (hlookup : s.escrows.lookup id = some r)
      (hlocked : r.status ≠ .locked) : Effect env s (.freezeFunds id) s
  /-- An open record has been settled. -/
  | settle {op : Op} {id : UInt64} {r : EscrowRecord} {admin : Address} {status : EscrowState}
      {trs : List Transfer} {s' : State T} (hlookup : s.escrows.lookup id = some r)
      (hadmin : s.admin = some admin)
      (hsettle : Settlement env admin s.platformFeeBps id r op status trs)
      (hauthority : s'.authority = s.authority)
      (hescrows : s'.escrows = s.escrows.insert id { r with status := status })
      (htokens : T.transferAll s.tokens trs = some s'.tokens)
      (htransfers : s'.transfers = s.transfers ++ trs) : Effect env s op s'

/-- **What a successful call has done.** -/
theorem exec_effect {op : Op} {env : Env} {s s' : State T} (h : exec op env s = .ok s') :
    Effect env s op s' := by
  cases op with
  | init admin token fee =>
      obtain ⟨hnew, rfl⟩ := init_ok_iff.mp h
      exact .configure (.init hnew) rfl rfl rfl
  | updatePlatformFee admin fee =>
      obtain ⟨hadmin, hauth, hcap, c, hc, rfl⟩ := updatePlatformFee_ok_iff.mp h
      exact .configure (.setFee hauth hadmin hcap hc) rfl rfl rfl
  | proposeAdmin current new =>
      obtain ⟨hauth, hadmin, rfl⟩ := proposeAdmin_ok_iff.mp h
      exact .configure (.propose hauth hadmin) rfl rfl rfl
  | acceptAdmin new =>
      obtain ⟨hauth, hpending, old, hadmin, rfl⟩ := acceptAdmin_ok_iff.mp h
      exact .configure (.accept hauth hadmin hpending) rfl rfl rfl
  | createEscrow sender recipient driver id token amount =>
      obtain ⟨hauth, hnew, l, hl, rfl⟩ := createEscrow_ok_iff.mp h
      exact .create hauth hnew rfl rfl hl rfl
  | releaseEscrow caller id =>
      obtain ⟨hauth, r, admin, l, hr, ha, hcaller, hlocked, _, hl, rfl⟩ :=
        releaseEscrow_ok_iff.mp h
      exact .settle hr ha (.release hauth hcaller hlocked) rfl rfl hl rfl
  | refundEscrow caller id =>
      obtain ⟨hauth, r, admin, l, hr, ha, hcaller, hopen, _, hl, rfl⟩ := refundEscrow_ok_iff.mp h
      exact .settle hr ha (.refund hauth hcaller hopen) rfl rfl hl rfl
  | raiseDispute caller id =>
      obtain ⟨hauth, r, hr, hcaller, hlocked, rfl⟩ := raiseDispute_ok_iff.mp h
      exact .raise hauth hr hcaller hlocked rfl rfl rfl rfl
  | resolveDispute caller id release =>
      cases release with
      | true =>
          obtain ⟨hauth, ha, r, l, hr, hpaused, hl, rfl⟩ := resolveDispute_true_ok_iff.mp h
          exact .settle hr ha (.award hauth hpaused) rfl rfl hl rfl
      | false =>
          obtain ⟨hauth, ha, r, l, hr, hpaused, hl, rfl⟩ := resolveDispute_false_ok_iff.mp h
          exact .settle hr ha (.giveBack hauth hpaused) rfl rfl hl rfl
  | resolveDisputeSplit caller id share =>
      obtain ⟨hauth, ha, hshare, r, l, hr, hpaused, _, hl, rfl⟩ :=
        resolveDisputeSplit_ok_iff.mp h
      exact .settle hr ha (.split hauth hpaused hshare) rfl rfl hl rfl
  | freezeFunds id =>
      obtain ⟨r, hr, rfl⟩ := freezeFunds_ok_iff.mp h
      split_ifs with hlocked
      · exact .freeze hr hlocked rfl rfl rfl rfl
      · exact .idle hr hlocked

/-- An escrow contract that has an admin always has one. -/
theorem Configuration.admin_isSome {env : Env} {s : State T} {op : Op}
    {admin pending : Option Address} {config : Option ProtocolConfig}
    (h : Configuration env s op (admin, pending, config))
    (hs : s.admin.isSome = true) : admin.isSome = true := by
  cases h with
  | init => rfl
  | setFee => exact hs
  | propose => exact hs
  | accept => rfl

theorem Effect.authority {env : Env} {op : Op} {s s' : State T} (h : Effect env s op s') :
    Configuration env s op s'.authority ∨ s'.authority = s.authority := by
  cases h with
  | configure hconfig => exact Or.inl hconfig
  | create _ _ hauthority => exact Or.inr hauthority
  | raise _ _ _ _ hauthority => exact Or.inr hauthority
  | freeze _ _ hauthority => exact Or.inr hauthority
  | idle => exact Or.inr rfl
  | settle _ _ _ hauthority => exact Or.inr hauthority

theorem Effect.admin_isSome {env : Env} {op : Op} {s s' : State T} (h : Effect env s op s')
    (hs : s.admin.isSome = true) : s'.admin.isSome = true := by
  rcases h.authority with hconfig | hsame
  · exact hconfig.admin_isSome hs
  · have hadmin : s'.admin = s.admin := congrArg Prod.fst hsame
    rw [hadmin]
    exact hs

/-- Whom an entry point makes the admin. -/
def Op.installs : Op → Option Address
  | .init admin _ _ => some admin
  | .acceptAdmin new => some new
  | _ => none

/-- The admin changes when one is installed, and only then. -/
lemma Effect.admin_cases {env : Env} {op : Op} {s s' : State T} (h : Effect env s op s') :
    s'.admin = s.admin ∨ ∃ a, op.installs = some a ∧ s'.admin = some a := by
  rcases h.authority with hconfig | hsame
  · generalize hauthority : s'.authority = authority at hconfig
    have hadmin : s'.admin = authority.1 := congrArg Prod.fst hauthority
    rw [hadmin]
    cases hconfig with
    | init => exact Or.inr ⟨_, rfl, rfl⟩
    | setFee => exact Or.inl rfl
    | propose => exact Or.inl rfl
    | accept => exact Or.inr ⟨_, rfl, rfl⟩
  · exact Or.inl (congrArg Prod.fst hsame)

lemma Effect.admin_eq {env : Env} {op : Op} {s s' : State T} (h : Effect env s op s')
    (hop : op.installs = none) : s'.admin = s.admin := by
  rcases h.admin_cases with hsame | ⟨_, hinstalls, _⟩
  · exact hsame
  · rw [hop] at hinstalls
    cases hinstalls

/-! ## Calls from other contracts -/

section Client

variable {self a : Address} {env : Env} {s s' : State T} {caller : Address} {id : UInt64}

/-- Through the client another contract makes the call it could have made itself, with the same
signatures and at the same time. -/
@[simp] theorem client_releaseEscrow_ok_iff :
    (client T self).releaseEscrow a env caller id s = .ok s' ↔
      a = self ∧ exec (.releaseEscrow caller id) (env.invoke self) s = .ok s' :=
  atAddress_ok_iff.trans (and_congr_right fun h => by rw [h, exec])

@[simp] theorem client_refundEscrow_ok_iff :
    (client T self).refundEscrow a env caller id s = .ok s' ↔
      a = self ∧ exec (.refundEscrow caller id) (env.invoke self) s = .ok s' :=
  atAddress_ok_iff.trans (and_congr_right fun h => by rw [h, exec])

@[simp] theorem client_raiseDispute_ok_iff :
    (client T self).raiseDispute a env caller id s = .ok s' ↔
      a = self ∧ exec (.raiseDispute caller id) (env.invoke self) s = .ok s' :=
  atAddress_ok_iff.trans (and_congr_right fun h => by rw [h, exec])

@[simp] theorem client_resolveDispute_ok_iff {release : Bool} :
    (client T self).resolveDispute a env caller id release s = .ok s' ↔
      a = self ∧ exec (.resolveDispute caller id release) (env.invoke self) s = .ok s' :=
  atAddress_ok_iff.trans (and_congr_right fun h => by rw [h, exec])

@[simp] theorem client_resolveDisputeSplit_ok_iff {share : UInt32} :
    (client T self).resolveDisputeSplit a env caller id share s = .ok s' ↔
      a = self ∧ exec (.resolveDisputeSplit caller id share) (env.invoke self) s = .ok s' :=
  atAddress_ok_iff.trans (and_congr_right fun h => by rw [h, exec])

@[simp] theorem client_freezeFunds_ok_iff :
    (client T self).freezeFunds a env id s = .ok s' ↔
      a = self ∧ exec (.freezeFunds id) (env.invoke self) s = .ok s' :=
  atAddress_ok_iff.trans (and_congr_right fun h => by rw [h, exec])

@[simp] theorem client_getEscrow_ok_iff {r : EscrowRecord} :
    (client T self).getEscrow a id s = .ok r ↔ a = self ∧ s.escrows.lookup id = some r :=
  atAddress_ok_iff.trans (and_congr_right fun _ => getEscrow_ok_iff)

end Client

/-! ## What happens to one record -/

/-- What the entry point `op` may do to the record `r` of `id`. -/
inductive Change (env : Env) (s : State T) (op : Op) (id : UInt64) (r : EscrowRecord) :
    EscrowRecord → Prop
  | same : Change env s op id r r
  | raised {caller : Address} (hop : op = .raiseDispute caller id) (hauth : caller ∈ env.auths)
      (hcaller : caller = r.sender ∨ caller = r.recipient) (hlocked : r.status = .locked) :
      Change env s op id r
        { r with
          status := .paused
          disputedBy := some caller
          disputedAt := some env.timestamp }
  | frozen (hop : op = .freezeFunds id) (hlocked : r.status = .locked) :
      Change env s op id r { r with status := .paused, disputedAt := some env.timestamp }
  | settled {admin : Address} {status : EscrowState} {trs : List Transfer}
      (hadmin : s.admin = some admin)
      (hsettle : Settlement env admin s.platformFeeBps id r op status trs) :
      Change env s op id r { r with status := status }

/-- A call touches the escrow it names and no other. -/
theorem Effect.frame {env : Env} {op : Op} {s s' : State T} (h : Effect env s op s') {id : UInt64}
    (hid : op.deliveryId ≠ some id) : s'.escrows.lookup id = s.escrows.lookup id := by
  have hne : ∀ {j : UInt64}, op.deliveryId = some j → id ≠ j := by
    rintro j hj rfl
    exact hid hj
  cases h with
  | configure _ hescrows => rw [hescrows]
  | create _ _ _ hescrows => rw [hescrows, Finmap.lookup_insert_of_ne _ (hne rfl)]
  | raise _ _ _ _ _ hescrows => rw [hescrows, Finmap.lookup_insert_of_ne _ (hne rfl)]
  | freeze _ _ _ hescrows => rw [hescrows, Finmap.lookup_insert_of_ne _ (hne rfl)]
  | idle => rfl
  | settle _ _ hsettle _ hescrows =>
      rw [hescrows, Finmap.lookup_insert_of_ne _ (hne hsettle.deliveryId_eq)]

/-- **No record ever disappears**, and what becomes of it is one of the four changes. -/
theorem Effect.change {env : Env} {op : Op} {s s' : State T} (h : Effect env s op s') {id : UInt64}
    {r : EscrowRecord} (hr : s.escrows.lookup id = some r) :
    ∃ r', s'.escrows.lookup id = some r' ∧ Change env s op id r r' := by
  by_cases hid : op.deliveryId = some id
  · cases h with
    | configure hconfig => exact absurd hid (by simp [hconfig.deliveryId_eq])
    | create _ hnew =>
        cases hid
        exact absurd hr (by simp [hnew])
    | raise hauth hlookup hcaller hlocked _ hescrows =>
        cases hid
        obtain rfl := Option.some.inj (hlookup.symm.trans hr)
        exact ⟨_, by rw [hescrows, Finmap.lookup_insert], .raised rfl hauth hcaller hlocked⟩
    | freeze hlookup hlocked _ hescrows =>
        cases hid
        obtain rfl := Option.some.inj (hlookup.symm.trans hr)
        exact ⟨_, by rw [hescrows, Finmap.lookup_insert], .frozen rfl hlocked⟩
    | idle => exact ⟨r, hr, .same⟩
    | settle hlookup hadmin hsettle _ hescrows =>
        obtain rfl := Option.some.inj (hsettle.deliveryId_eq.symm.trans hid)
        obtain rfl := Option.some.inj (hlookup.symm.trans hr)
        exact ⟨_, by rw [hescrows, Finmap.lookup_insert], .settled hadmin hsettle⟩
  · exact ⟨r, by rw [h.frame hid, hr], .same⟩

/-- A record that was not there before has just been created. -/
theorem Effect.created {env : Env} {op : Op} {s s' : State T} (h : Effect env s op s') {id : UInt64}
    {r : EscrowRecord} (hnone : s.escrows.lookup id = none) (hr : s'.escrows.lookup id = some r) :
    ∃ token amount, op = .createEscrow r.sender r.recipient r.driver id token amount ∧
      r.sender ∈ env.auths ∧ r = newRecord env r.sender r.recipient r.driver token amount := by
  have hne : ∀ {j : UInt64} {q : EscrowRecord}, s.escrows.lookup j = some q → j ≠ id := by
    rintro j q hq rfl
    rw [hnone] at hq
    cases hq
  cases h with
  | configure _ hescrows =>
      rw [hescrows, hnone] at hr
      cases hr
  | create hauth _ _ hescrows =>
      rw [hescrows] at hr
      rcases Finmap.lookup_insert_eq_some_iff.mp hr with ⟨rfl, rfl⟩ | ⟨_, hq⟩
      · exact ⟨_, _, rfl, hauth, rfl⟩
      · rw [hnone] at hq
        cases hq
  | raise _ hlookup _ _ _ hescrows =>
      rw [hescrows, Finmap.lookup_insert_of_ne _ (hne hlookup).symm, hnone] at hr
      cases hr
  | freeze hlookup _ _ hescrows =>
      rw [hescrows, Finmap.lookup_insert_of_ne _ (hne hlookup).symm, hnone] at hr
      cases hr
  | idle =>
      rw [hnone] at hr
      cases hr
  | settle hlookup _ _ _ hescrows =>
      rw [hescrows, Finmap.lookup_insert_of_ne _ (hne hlookup).symm, hnone] at hr
      cases hr

/-! ## The escrow contract as a transition system -/

/-- What can happen: a signed call at some ledger time, or the token ledgers moving on. -/
inductive Label (T : Token)
  | call (timestamp : UInt64) (auths : Finset Address) (op : Op)
  | tokens (l : T.Ledger)

/-- Who pays an escrow in. -/
def Label.funder : Label T → Option Address
  | .call _ _ (.createEscrow sender _ _ _ _ _) => some sender
  | _ => none

/-- One step of the contract deployed at `self`.  What others do with the tokens never lowers its
balances; a call that panics is rolled back and is no step. -/
inductive Step (self : Address) : State T → Label T → State T → Prop
  | call {s s' : State T} {timestamp : UInt64} {auths : Finset Address} {op : Op}
      (h : exec op ⟨self, timestamp, auths⟩ s = .ok s') :
      Step self s (.call timestamp auths op) s'
  | tokens {s : State T} {l : T.Ledger}
      (h : ∀ t, (T.balance s.tokens t self : ℤ) ≤ T.balance l t self) :
      Step self s (.tokens l) { s with tokens := l }

/-- A contract as it is deployed, over the given token ledgers. -/
def State.deployed (l : T.Ledger) : State T :=
  { admin := none
    pendingAdmin := none
    protocolConfig := none
    escrows := ∅
    events := []
    tokens := l
    transfers := [] }

/-- The escrow contract at the address `self`, from its deployment on. -/
def system (T : Token) (self : Address) : TransitionSystem (State T) (Label T) where
  start s := ∃ l, (∀ t, 0 ≤ (T.balance l t self : ℤ)) ∧ s = State.deployed l
  step := Step self

/-- Carrying out a label at the contract deployed at `self`.  Only calls are carried out; how the
token ledgers move on is not the contract's to compute. -/
def advance (self : Address) (s : State T) : Label T → Option (State T)
  | .call timestamp auths op => (exec op ⟨self, timestamp, auths⟩ s).toOption
  | .tokens _ => none

theorem advance_sound {self : Address} (s : State T) (l : Label T) (s' : State T)
    (h : advance self s l = some s') : (system T self).step s l s' := by
  cases l with
  | call timestamp auths op => exact .call (Abort.toOption_eq_some_iff.mp h)
  | tokens l => cases h

theorem deployed_grant_start {self : Address} (holder : Address) (x : UInt32) :
    (system plainToken self).start (State.deployed (Balances.grant holder x)) :=
  ⟨_, fun t => Balances.grant_nonneg holder x t self, rfl⟩

/-- Calls that go through one after the other lead to a reachable state. -/
theorem reach_of_advance {self holder : Address} {x : UInt32}
    {ok : State plainToken → Label plainToken → Prop} [∀ s l, Decidable (ok s l)]
    {calls : List (Label plainToken)} {s : State plainToken}
    (h : calls.foldlM (TransitionSystem.guarded ok (advance self))
      (State.deployed (Balances.grant holder x)) = some s) :
    (system plainToken self).Reach ok s :=
  ⟨_, calls, deployed_grant_start holder x, .of_foldlM advance_sound calls h⟩

end SwiftChain.Escrow
