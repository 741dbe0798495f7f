import Coffer.Proofs.Allocator.Counters
import Coffer.Proofs.Payload.Upkeep
import Coffer.Proofs.Synchronizer.Updates
import Coffer.Proofs.Toy
import Coffer.Proofs.Wallet.Calls
import Coffer.Proofs.Wallet.Chains
/-!
# New wallets

A wallet that is in step with the store can save every change that applies to what it has committed.
So with transparent collaborators there are runs of a new wallet to which the laws of wallets apply.
-/

namespace Coffer

namespace Wallet

variable {wallet : Wallet} {workplace : Workplace} {store : Store} {draw : Draw} {command : Command}
  {device : Device} {committed : Committed} {next : Payload} {announce : Bool}

/-- A wallet that is in step with the store can save a valid payload that was built from the
committed one. -/
theorem mutate_in_step (workplace : Workplace) (announce : Bool)
    (build : Payload → Except WalletError Payload)
    (inStep : wallet.synchronizer.InStep store committed)
    (encrypts : workplace.services.cipher.Encrypts)
    (hasDevice : workplace.config.device = some device) (built : build committed.payload = .ok next)
    (valid : next.validate = .ok ()) (succeeds : next.checkSucceeds committed.payload = .ok ())
    (sameKey : next.sharedKey = committed.payload.sharedKey)
    (announces : announce = true →
      ∃ announced, wallet.synchronizer.announcedAddresses workplace.surroundings next =
        .ok announced) :
    ∃ new, (wallet.mutate workplace store announce build).result = .ok new ∧ new.payload = next ∧
      (wallet.mutate workplace store announce build).wallet.synchronizer.InStep
        (wallet.mutate workplace store announce build).store new :=
  inStep.mutate encrypts hasDevice (fun _ _ => built) valid succeeds sameKey announces

/-- A wallet that is in step with the store can save every change that applies to what it has
committed. -/
theorem change_in_step (transition : Transition)
    (isCall : wallet.call? workplace draw command =
      some (.change workplace.services announce transition))
    (inStep : wallet.synchronizer.InStep store committed)
    (encrypts : workplace.services.cipher.Encrypts)
    (hasDevice : workplace.config.device = some device)
    (valid : committed.payload.validate = .ok ())
    (applied : transition.apply workplace.services committed.payload = .ok next)
    (watchOnly : ∀ entry, transition = .addImported entry → entry.key = none)
    (announces : announce = true →
      ∃ announced, wallet.synchronizer.announcedAddresses workplace.surroundings next =
        .ok announced) :
    ∃ new, new.payload = next ∧
      (Call.perform (.change workplace.services announce transition) wallet.synchronizer
        workplace.surroundings store).result = .ok new ∧
      (wallet.perform workplace store draw command).wallet.synchronizer.InStep
        (wallet.perform workplace store draw command).store new := by
  obtain ⟨stillValid, succeeds⟩ := Payload.valid_of_apply valid applied watchOnly
  have follows := perform_of_call store isCall
  obtain ⟨new, saved, samePayload, stillInStep⟩ := mutate_in_step workplace announce
    (fun payload => transition.apply workplace.services payload) inStep encrypts hasDevice
    applied stillValid succeeds (kept_of_apply applied).2.1 announces
  refine ⟨new, samePayload, saved, ?_⟩
  rw [follows.synchronizer, follows.store]
  exact stillInStep

theorem count_mutate {build : Payload → Except WalletError Payload} {xpub : String}
    {scheme : Scheme} {chain : Chain} :
    (wallet.mutate workplace store announce build).wallet.synchronizer.allocator.count xpub
      scheme chain = wallet.synchronizer.allocator.count xpub scheme chain := by
  rcases wallet.synchronizer.mutate_cases workplace.surroundings store announce (fun payload _ =>
      build payload) with
    ⟨_, _, same⟩ | ⟨_, _, _, _, _, _, _, commits⟩
  · rw [mutate, settle, same]
  · rw [mutate, settle, commits]
    exact Allocator.count_syncLabels _ _ _ _

variable {services : Services} {payload : Payload} {guid sharedKey label : String} {entropy : Bytes}
  {iterations : UInt32}

theorem accounts_of_hierarchical
    (made : Payload.hierarchical services.keys guid sharedKey label entropy iterations =
      .ok payload) :
    ∃ derivation, payload.accounts = [.ofDerivation label derivation] ∧ payload.imported = [] := by
  obtain ⟨_, _, made⟩ := bind_eq_ok.mp made
  obtain ⟨body, rooted, made⟩ := bind_eq_ok.mp made
  cases made
  obtain ⟨_, derivation, _, _, _, accounts⟩ := Body.ofEntropy_eq_ok rooted
  exact ⟨derivation, accounts, rfl⟩

theorem version_of_hierarchical
    (made : Payload.hierarchical services.keys guid sharedKey label entropy iterations =
      .ok payload) :
    payload.version = .v3 := by
  obtain ⟨_, _, made⟩ := bind_eq_ok.mp made
  obtain ⟨_, _, made⟩ := bind_eq_ok.mp made
  cases made
  rfl

end Wallet

namespace Toy

open Wallet

/-- A place with transparent collaborators where wallets can be created. -/
structure Hosts (workplace : Workplace) : Prop where
  services : workplace.services = Toy.services
  hasDevice : ∃ device, workplace.config.device = some device
  positive : 0 < workplace.config.iterations

def quiet : Workplace := { workplace with config := { workplace.config with lookahead := 0 } }

theorem workplace_hosts : Hosts Toy.workplace := ⟨rfl, ⟨_, rfl⟩, by decide⟩

theorem quiet_hosts : Hosts Toy.quiet := ⟨rfl, ⟨_, rfl⟩, by decide⟩

/-- The wallet that is created at a place, and the store that has it. -/
def created (workplace : Workplace) : Reply Committed :=
  Wallet.initial.create workplace .empty ⟨"guid", "key", List.replicate 16 0⟩ "main"
    "mail" "password"

/-- What was created has one account. Its default chain is a legacy one, of which nothing is known,
and it has no labels. -/
structure Starts (workplace : Workplace) (committed : Committed) (account : Account)
    (path : String) : Prop where
  reached : Reached keySource (created workplace).wallet
  inStep : (created workplace).wallet.synchronizer.InStep (created workplace).store committed
  isMain : (created workplace).wallet.synchronizer.password = some "password"
  made : Payload.hierarchical keySource "guid" "key" "main" (List.replicate 16 0)
    workplace.config.iterations = .ok committed.payload
  synced : (created workplace).wallet.synchronizer.allocator =
    Allocator.empty.syncLabels committed.payload
  isAccount : committed.payload.account 0 = .ok account
  unlabelled : account.addressLabels = .empty
  isChain : (created workplace).wallet.accountChain 0 = .ok (.legacy, "pub-" ++ path)

variable {workplace : Workplace} {committed : Committed} {account : Account} {path : String}

theorem Hosts.encrypts (hosts : Hosts workplace) : workplace.services.cipher.Encrypts := by
  rw [hosts.services]
  exact cipher_encrypts

theorem Hosts.starts (hosts : Hosts workplace) :
    ∃ committed account path, Starts workplace committed account path := by
  obtain ⟨device, hasDevice⟩ := hosts.hasDevice
  obtain ⟨payload, _, _, _, _, made, _⟩ := new_payload_is_labelled workplace.config.iterations 0
  have sameServices := hosts.services
  have valid := Payload.valid_hierarchical (by decide) (by decide) hosts.positive made
  have isMade : Payload.hierarchical workplace.services.keys "guid" "key" "main"
      (List.replicate 16 0) workplace.config.iterations = .ok payload := by
    rw [sameServices]
    exact made
  have isCreated : created workplace = Wallet.initial.settle
      (Wallet.initial.synchronizer.saveNew workplace.surroundings .empty payload
        "password" "mail") := by
    simp only [created, create, isMade]
  obtain ⟨committed, succeeds, _⟩ : ∃ stored,
      (Wallet.initial.synchronizer.saveNew workplace.surroundings .empty payload "password"
        "mail").result = .ok stored ∧ stored.payload = payload :=
    Synchronizer.saveNew_succeeds "password" "mail" hosts.encrypts hasDevice valid rfl rfl
  obtain ⟨rfl, _, record, saved⟩ := Synchronizer.saveNew_eq_ok succeeds
  have reached : Reached keySource (created workplace).wallet :=
    .created _ _ _ _ _ (congrArg Services.keys sameServices)
  have inStep : (created workplace).wallet.synchronizer.InStep (created workplace).store
      committed := by
    rw [isCreated]
    exact saved.inStep
  obtain ⟨derivation, accounts, _⟩ := accounts_of_hierarchical isMade
  have isAccount : committed.payload.accounts[0]? = some (.ofDerivation "main" derivation) := by
    rw [accounts]; rfl
  have numbered := (reached.keeps keySource_tellsApart committed inStep.isCommitted).numbered
  obtain ⟨xpub, hasXpub, isDefault, isChain⟩ :=
    accountChain_of_account inStep.isCommitted numbered isAccount
  obtain ⟨_, _, carries⟩ := numbered 0 _ isAccount
  obtain ⟨path, rfl⟩ := pub_of_default carries hasXpub
  rw [isDefault, version_of_hierarchical isMade] at isChain
  refine ⟨committed, .ofDerivation "main" derivation, path, reached, inStep, ?_, made, ?_,
    ?_, rfl, isChain⟩
  · rw [isCreated]
    exact congrArg (fun attempt => attempt.synchronizer.password) saved.attempt_eq
  · rw [isCreated]
    exact congrArg (fun attempt => attempt.synchronizer.allocator) saved.attempt_eq
  · exact Payload.account_eq_ok.mpr isAccount

namespace Starts

variable (starts : Starts workplace committed account path)

include starts

theorem isPayload : (created workplace).wallet.payload = .ok committed.payload :=
  payload_of_committed starts.inStep.isCommitted

theorem accounts : committed.payload.accounts = [account] := by
  have made : Payload.hierarchical services.keys "guid" "key" "main" (List.replicate 16 0)
    workplace.config.iterations = .ok committed.payload := starts.made
  obtain ⟨derivation, accounts, _⟩ := accounts_of_hierarchical made
  have isAccount := Payload.account_eq_ok.mp starts.isAccount
  rw [accounts] at isAccount ⊢
  cases isAccount
  rfl

theorem count (xpub : String) (scheme : Scheme) (chain : Chain) :
    (created workplace).wallet.synchronizer.allocator.count xpub scheme chain = 0 := by
  rw [starts.synced, Allocator.count_syncLabels, Allocator.count_empty]

theorem nextReceive :
    ((created workplace).wallet.synchronizer.allocator.state ("pub-" ++ path) .legacy).nextReceive =
    0 :=
  UInt32.toNat_inj.mp (starts.count _ _ .receive)

theorem reserved :
    ((created workplace).wallet.synchronizer.allocator.state ("pub-" ++ path) .legacy).reserved =
    .empty := by
  obtain ⟨payload, own, isPayload, isOwn, reserved⟩ :=
    (starts.reached.keeps keySource_tellsApart).reserved_of_accountChain starts.isChain
  cases starts.isPayload.symm.trans isPayload
  cases starts.isAccount.symm.trans isOwn
  exact reserved.trans starts.unlabelled

theorem isNext : (created workplace).wallet.nextOn 0 .receive = .ok (.legacy, "pub-" ++ path, 0) :=
  nextOn_eq_ok.mpr ⟨starts.isChain, Allocator.nextFree_of_free starts.nextReceive
    (starts.reserved ▸ rfl)⟩

end Starts

/-- Where a new payload is committed and in step with the store, a label can be saved for any index
of it. -/
theorem Hosts.label_in_step {wallet : Wallet} {store : Store} (hosts : Hosts workplace)
    (inStep : wallet.synchronizer.InStep store committed)
    (made : Payload.hierarchical keySource "guid" "key" "main" (List.replicate 16 0)
      workplace.config.iterations = .ok committed.payload) (index : UInt32) :
    ∃ new body account seed, (wallet.reserving workplace store 0 index "rent").result = .ok new ∧
      (wallet.reserving workplace store 0 index "rent").wallet.synchronizer.InStep
        (wallet.reserving workplace store 0 index "rent").store new ∧
      Labelled new.payload index body account seed := by
  obtain ⟨device, hasDevice⟩ := hosts.hasDevice
  obtain ⟨_, labelled, body, account, seed, isMade, applied, isLabelled⟩ :=
    new_payload_is_labelled workplace.config.iterations index
  cases made.symm.trans isMade
  have valid := Payload.valid_hierarchical (by decide) (by decide) hosts.positive made
  obtain ⟨stillValid, succeeds⟩ :=
    Payload.valid_of_apply valid applied fun _ isOther => nomatch isOther
  obtain ⟨new, saved, samePayload, stillInStep⟩ := mutate_in_step workplace false
    (fun payload => payload.labelAddress 0 index "rent") inStep hosts.encrypts hasDevice applied
    stillValid succeeds (kept_of_apply applied).2.1 fun isFalse => nomatch isFalse
  exact ⟨new, body, account, seed, saved, stillInStep, samePayload ▸ isLabelled⟩

/-- The first address that a new wallet tells, and what is left then. -/
def told (workplace : Workplace) : Reply String :=
  (created workplace).wallet.nextReceiveAndReserve workplace (created workplace).store 0 "rent"

theorem Starts.count_told (starts : Starts workplace committed account path) (xpub : String)
    (scheme : Scheme) (chain : Chain) :
    (told workplace).wallet.synchronizer.allocator.count xpub scheme chain = 0 := by
  obtain ⟨sameWallet, _, _⟩ :=
    nextReceiveAndReserve_of_next workplace (created workplace).store "rent" starts.isNext
  rw [told, sameWallet, reserving, count_mutate]
  exact starts.count xpub scheme chain

/-- The address that a new wallet tells is that of the first index, which has a label from then on.
No counter has moved. -/
structure Tells (workplace : Workplace) (path address : String) (new : Committed) (body : Body)
    (account : Account) (seed : Bytes) : Prop where
  reached : Reached keySource (told workplace).wallet
  isTold : (told workplace).result = .ok address
  derived : keySource.addressAt ("pub-" ++ path) .legacy .receive 0 = .ok address
  inStep : (told workplace).wallet.synchronizer.InStep (told workplace).store new
  count : ∀ xpub scheme chain, (told workplace).wallet.synchronizer.allocator.count xpub
    scheme chain = 0
  isChain : (told workplace).wallet.accountChain 0 = .ok (.legacy, "pub-" ++ path)
  labelled : Labelled new.payload 0 body account seed

theorem Hosts.tells (hosts : Hosts workplace) (starts : Starts workplace committed account path) :
    ∃ address new body labelled seed, Tells workplace path address new body labelled seed := by
  obtain ⟨address, derived⟩ :=
    addressAt_pub path .legacy .receive (by decide : (0 : UInt32) < 0x80000000)
  obtain ⟨new, body, labelled, seed, saved, inStep, isLabelled⟩ :=
    hosts.label_in_step starts.inStep starts.made 0
  obtain ⟨sameWallet, sameStore, sameResult⟩ :=
    nextReceiveAndReserve_of_next workplace (created workplace).store "rent" starts.isNext
  have goesOn : (Command.nextReceiveAndReserve 0 "rent").GoesOn := trivial
  have sameKeys : workplace.services.keys = keySource := congrArg Services.keys hosts.services
  have reached : Reached keySource (told workplace).wallet :=
    starts.reached.performed (created workplace).store ⟨"", "", []⟩ sameKeys goesOn
  refine ⟨address, new, body, labelled, seed, reached, ?_, derived, ?_, starts.count_told,
    ?_, isLabelled⟩
  · rw [told, sameResult, hosts.services]
    exact bind_eq_ok.mpr ⟨new, saved, liftError_eq_ok.mpr derived⟩
  · rw [told, sameWallet, sameStore]
    exact inStep
  · have step : Step keySource (created workplace).wallet (told workplace).wallet :=
      step_nextReceiveAndReserve sameKeys
    have isPayload : (told workplace).wallet.payload = .ok new.payload := by
      rw [told, sameWallet]
      exact payload_of_committed inStep.isCommitted
    exact step.accountChain keySource_tellsApart (starts.reached.keeps keySource_tellsApart)
      starts.isChain isPayload (by rw [isLabelled.isThird]; rfl)

/-- Where the first index is the only one that has a label, the second one is the next. -/
theorem nextFree_of_labelled {allocator : Allocator} {xpub : String} {scheme : Scheme}
    (atStart : (allocator.state xpub scheme).nextReceive = 0)
    (labels : (allocator.state xpub scheme).reserved = SortedMap.empty.insert 0 "rent") :
    allocator.nextFree xpub scheme = .ok 1 := by
  have isSecond : IndexState.firstFree? ⟨0, 0, SortedMap.empty.insert 0 "rent"⟩ = some 1 := by
    decide
  exact Allocator.nextFree_eq_ok.mpr ((IndexState.firstFree?_congr atStart labels).trans isSecond)

namespace Tells

variable {address : String} {body : Body} {seed : Bytes}
  (tells : Tells workplace path address committed body account seed)

include tells

theorem isPayload : (told workplace).wallet.payload = .ok committed.payload :=
  payload_of_committed tells.inStep.isCommitted

theorem accounts : committed.payload.accounts = [account] := by
  rw [Payload.accounts_of_body (Payload.body?_of_bodies tells.labelled.onlyBody),
    tells.labelled.accounts]

theorem isNext : (told workplace).wallet.nextOn 0 .receive = .ok (.legacy, "pub-" ++ path, 1) := by
  refine nextOn_eq_ok.mpr ⟨tells.isChain,
    nextFree_of_labelled (UInt32.toNat_inj.mp (tells.count _ _ .receive)) ?_⟩
  obtain ⟨payload, own, isPayload, isOwn, reserved⟩ :=
    (tells.reached.keeps keySource_tellsApart).reserved_of_accountChain tells.isChain
  cases tells.isPayload.symm.trans isPayload
  rw [Payload.account_eq_ok, tells.accounts] at isOwn
  cases isOwn
  exact reserved.trans tells.labelled.labels

end Tells

end Toy

end Coffer
