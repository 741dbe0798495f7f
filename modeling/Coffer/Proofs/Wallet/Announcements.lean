import Coffer.Proofs.Wallet.New
/-!
# Announced addresses

What a save announces are the next receive addresses of the accounts in use and the imported
addresses in use. The list is made before the labels of the saved payload are taken over. That makes
a difference for one command only: an upgrade to segwit announces from the first index on, even
where that index has a label.
-/

namespace Coffer

/-! ## Lists of addresses -/

namespace KeySource

/-- Addresses of receive indexes one after the other, from one on, and as many as are asked for. -/
structure RunsFrom (keys : KeySource) (xpub : String) (scheme : Scheme) (start count : UInt32)
    (addresses : List String) : Prop where
  length : start.toNat + count.toNat ≤ 0x80000000 → addresses.length = count.toNat
  each : ∀ (k : Nat) (address : String), addresses[k]? = some address →
    keys.addressAt xpub scheme .receive (UInt32.ofNat (start.toNat + k)) = .ok address

variable {keys : KeySource} {xpub : String} {scheme : Scheme} {addresses : List String}

theorem addressesFrom_eq_ok {start count : Nat}
    (derived : keys.addressesFrom xpub scheme start count = .ok addresses) :
    addresses.length = count ∧ ∀ (k : Nat) (address : String), addresses[k]? = some address →
      keys.addressAt xpub scheme .receive (UInt32.ofNat (start + k)) = .ok address := by
  induction count generalizing start addresses with
  | zero =>
    cases derived
    exact ⟨rfl, fun _ _ isIn => nomatch isIn⟩
  | succ count ih =>
    rw [addressesFrom] at derived
    split at derived
    · cases derived
    · rename_i first own
      split at derived
      · cases derived
      · rename_i later derivedLater
        cases derived
        obtain ⟨length, each⟩ := ih derivedLater
        refine ⟨congrArg (· + 1) length, fun k address isAddress => ?_⟩
        cases k with
        | zero =>
          cases isAddress
          exact own
        | succ k =>
          have isLater := each k address isAddress
          rw [Nat.add_assoc, Nat.add_comm 1 k] at isLater
          exact isLater

theorem runsFrom_of_receiveAddresses {start count : UInt32}
    (derived : keys.receiveAddresses xpub scheme start count = .ok addresses) :
    keys.RunsFrom xpub scheme start count addresses := by
  obtain ⟨length, each⟩ := addressesFrom_eq_ok derived
  exact ⟨fun inRange => length.trans (by omega), each⟩

end KeySource

namespace Synchronizer

variable {synchronizer : Synchronizer} {surroundings : Surroundings} {payload : Payload}
  {announced : List String}

/-- The addresses that are announced for an account; none where they cannot be derived. -/
def addressesOf (synchronizer : Synchronizer) (surroundings : Surroundings) (preferred : Scheme)
    (account : Account) : List String :=
  (synchronizer.accountAddresses surroundings preferred account).toOption.getD []

/-- What is announced are the addresses of each account in use, in order, and the imported addresses
in use. -/
theorem announcedAddresses_eq_ok :
    synchronizer.announcedAddresses surroundings payload = .ok announced ↔
    (∀ entry ∈ payload.activeAccounts, ∃ addresses,
      synchronizer.accountAddresses surroundings (Scheme.defaultFor payload.version) entry.1 =
        .ok addresses) ∧
    announced = payload.activeAccounts.flatMap (fun entry =>
      synchronizer.addressesOf surroundings (Scheme.defaultFor payload.version) entry.1) ++
        payload.activeImported.map ImportedAddress.address := by
  have each (entry : Account × Nat) (list : List String) :
      synchronizer.accountAddresses surroundings (Scheme.defaultFor payload.version)
      entry.1 = .ok list ↔ (∃ addresses,
        synchronizer.accountAddresses surroundings (Scheme.defaultFor payload.version) entry.1 =
          .ok addresses) ∧
        list = synchronizer.addressesOf surroundings
        (Scheme.defaultFor payload.version) entry.1 := by
    cases derived : synchronizer.accountAddresses surroundings
      (Scheme.defaultFor payload.version) entry.1 <;>
      simp [addressesOf, derived, Except.toOption, eq_comm]
  simp only [announcedAddresses, bind_eq_ok, mapM_eq_ok each, pure_eq_ok, Except.ok.injEq,
    List.flatMap_def]
  constructor
  · rintro ⟨_, ⟨derived, rfl⟩, rfl⟩
    exact ⟨derived, rfl⟩
  · rintro ⟨derived, rfl⟩
    exact ⟨_, ⟨derived, rfl⟩, rfl⟩

/-- An account that has the preferred scheme for its default announces from the next index of its
default chain on. -/
theorem accountAddresses_eq_ok {preferred : Scheme} {account : Account} {xpub : String}
    {addresses : List String} (isPreferred : account.defaultScheme = preferred)
    (hasXpub : account.defaultXpub? = some xpub) :
    synchronizer.accountAddresses surroundings preferred account = .ok addresses ↔
      ∃ start, synchronizer.allocator.nextFree xpub account.defaultScheme = .ok start ∧
        surroundings.services.keys.receiveAddresses xpub account.defaultScheme start
          surroundings.lookahead = .ok addresses := by
  subst isPreferred
  rw [Account.defaultXpub?] at hasXpub
  simp only [accountAddresses, Account.receiveXpub?, hasXpub, bind_eq_ok, liftError_eq_ok]

/-- The first address that is announced is the next one of the first account, where that is in
use. -/
theorem head?_announced {account : Account} {others : List (Account × Nat)} {xpub address : String}
    (isAnnounced : synchronizer.announcedAddresses surroundings payload = .ok announced)
    (active : payload.activeAccounts = (account, 0) :: others)
    (isPreferred : account.defaultScheme = Scheme.defaultFor payload.version)
    (hasXpub : account.defaultXpub? = some xpub)
    (isFirst : synchronizer.allocator.nextFree xpub account.defaultScheme = .ok 0)
    (inRange : 0 < surroundings.lookahead.toNat ∧ surroundings.lookahead.toNat ≤ 0x80000000)
    (derived : surroundings.services.keys.addressAt xpub account.defaultScheme .receive 0 =
      .ok address) :
    announced.head? = some address := by
  obtain ⟨each, rfl⟩ := announcedAddresses_eq_ok.mp isAnnounced
  obtain ⟨addresses, own⟩ := each (account, 0) (by rw [active]; exact List.mem_cons_self)
  rw [active, List.flatMap_cons, addressesOf, own]
  obtain ⟨start, isStart, own⟩ := (accountAddresses_eq_ok isPreferred hasXpub).mp own
  cases isFirst.symm.trans isStart
  have runs := KeySource.runsFrom_of_receiveAddresses own
  have length := runs.length (by rw [UInt32.toNat_zero]; omega)
  cases addresses with
  | nil =>
    rw [List.length_nil] at length
    omega
  | cons first later =>
    have own := runs.each 0 first rfl
    rw [show UInt32.ofNat ((0 : UInt32).toNat + 0) = 0 from rfl, derived] at own
    cases own
    rfl

end Synchronizer

/-! ## Commands that announce -/

namespace Wallet

variable {keys : KeySource} {wallet : Wallet} {workplace : Workplace} {store : Store} {draw : Draw}
  {command : Command} {answer : Answer}

/-- The command announces addresses when it saves. -/
def Command.Announces : Command → Prop
  | .announce | .addAccount .. | .upgradeToAccounts .. | .upgradeToSegwit .. | .watch ..
  | .importKey .. | .setKey .. | .archiveImported .. => True
  | _ => False

/-- What a command that announces saves: the committed payload as it is, or what a change made of it
that reserves no index, and that gives accounts segwit keys only where that is the command. -/
inductive Command.Saves (command : Command) (services : Services) (payload next : Payload) : Prop
  | again (same : next = payload)
  | changed {transition : Transition} (keepsLabels : transition.labels = false)
      (switches : transition.addsSegwit = true → ∃ second, command = .upgradeToSegwit second)
      (applied : transition.apply services payload = .ok next)

/-- A change that neither reserves an index nor gives accounts segwit keys, whatever the command. -/
theorem Command.saves_of_apply {services : Services} {payload next : Payload}
    (transition : Transition) (keepsLabels : transition.labels = false)
    (keepsScheme : transition.addsSegwit = false)
    (applied : transition.apply services payload = .ok next) :
    command.Saves services payload next :=
  .changed keepsLabels (fun switches => nomatch keepsScheme.symm.trans switches) applied

theorem saves_imported {wif : String} {label second : Option String} {committed : Committed}
    {next : Payload} (isCommitted : wallet.synchronizer.committed = some committed)
    (isImported : wallet.imported? workplace wif label second = some next) :
    command.Saves workplace.services committed.payload next := by
  obtain ⟨device, payload, entry, _, isPayload, imported⟩ := imported?_eq_some isImported
  cases (payload_of_committed isCommitted).symm.trans isPayload
  exact Command.saves_of_apply (.importKey wif label device second) rfl rfl
    (map_eq_ok.mpr ⟨_, imported, rfl⟩)

theorem isSome_imported? {wif : String} {label second : Option String} {entry : ImportedAddress}
    (attached : (wallet.attachKey workplace store wif label second).result = .ok entry) :
    ∃ next, wallet.imported? workplace wif label second = some next := by
  simp only [attachKey] at attached
  split at attached
  · cases attached
  · rename_i next _ imported
    obtain ⟨device, hasDevice, imported⟩ := bind_eq_ok.mp imported
    obtain ⟨before, isPayload, imported⟩ := bind_eq_ok.mp imported
    exact ⟨next, by simp [imported?, hasDevice, isPayload, imported, Except.toOption]⟩

theorem call_of_announces (announces : command.Announces)
    (succeeds : (wallet.perform workplace store draw command).result = .ok answer) :
    ∃ build, wallet.call? workplace draw command = some (.replace (.mutate true build)) ∧
      ∀ committed main next, wallet.synchronizer.committed = some committed →
        build committed.payload main = .ok next →
          command.Saves workplace.services committed.payload next := by
  cases command
  case announce => exact ⟨_, rfl, fun _ _ _ _ built => .again (Except.ok.inj built).symm⟩
  case upgradeToSegwit second =>
    exact ⟨_, rfl, fun _ _ _ _ built => .changed rfl (fun _ => ⟨second, rfl⟩) built⟩
  case importKey =>
    obtain ⟨_, attached, _⟩ := map_eq_ok.mp succeeds
    obtain ⟨next, isImported⟩ := isSome_imported? attached
    refine ⟨fun _ _ => .ok next,
      by simp only [call?, isImported, Option.map_some], fun _ _ _ isCommitted built => ?_⟩
    exact Except.ok.inj built ▸ saves_imported isCommitted isImported
  case setKey =>
    obtain ⟨_, attached, _⟩ := map_eq_ok.mp succeeds
    obtain ⟨next, isImported⟩ := isSome_imported? attached
    refine ⟨fun _ _ => .ok next,
      by simp only [call?, isImported, Option.map_some], fun _ _ _ isCommitted built => ?_⟩
    exact Except.ok.inj built ▸ saves_imported isCommitted isImported
  case addAccount label second =>
    exact ⟨_, rfl, fun _ _ _ _ => Command.saves_of_apply (.addAccount label second) rfl rfl⟩
  case upgradeToAccounts label second =>
    exact ⟨_, rfl, fun _ _ _ _ =>
      Command.saves_of_apply (.upgradeToAccounts draw.entropy label second) rfl rfl⟩
  case watch address label =>
    exact ⟨_, rfl, fun _ _ _ _ =>
      Command.saves_of_apply (.addImported (.watchOnly address label)) rfl rfl⟩
  case archiveImported address archived =>
    exact ⟨_, rfl, fun _ _ _ _ =>
      Command.saves_of_apply (.archiveImported address archived) rfl rfl⟩
  all_goals cases announces

/-- What a command that announces and succeeds leaves: the payload that it saved is committed, and
the record of it has the addresses that were drawn up before its labels were taken over. -/
structure Announced (wallet : Wallet) (workplace : Workplace) (command : Command)
    (old new : Committed) (record : Record) (reply : Reply Answer) : Prop where
  wasCommitted : wallet.synchronizer.committed = some old
  saves : command.Saves workplace.services old.payload new.payload
  isCommitted : reply.wallet.synchronizer.committed = some new
  synced : reply.wallet.synchronizer.allocator =
    wallet.synchronizer.allocator.syncLabels new.payload
  isStored : reply.store.record? new.payload.guid = some record
  announced : wallet.synchronizer.announcedAddresses workplace.surroundings new.payload =
    .ok record.announced

theorem announced_of_perform (announces : command.Announces)
    (succeeds : (wallet.perform workplace store draw command).result = .ok answer) :
    ∃ old new record,
      wallet.Announced workplace command old new record
        (wallet.perform workplace store draw command) := by
  obtain ⟨build, isCall, saves⟩ := call_of_announces announces succeeds
  have follows := perform_of_call store isCall
  obtain ⟨finish, sameResult⟩ := follows.result
  obtain ⟨new, saved, _⟩ := bind_eq_ok.mp (sameResult.symm.trans succeeds)
  obtain ⟨plan, _, record, planned, samePayload, _, _, _, _, announced, left⟩ :=
    Synchronizer.replace_eq_ok saved
  obtain ⟨previous, isCurrent, planned⟩ := bind_eq_ok.mp planned
  obtain ⟨main, _, planned⟩ := bind_eq_ok.mp planned
  obtain ⟨candidate, built, planned⟩ := bind_eq_ok.mp planned
  cases planned
  have wasCommitted := Synchronizer.current_eq_ok isCurrent
  have leaves : Call.perform (.replace (.mutate true build)) wallet.synchronizer
      workplace.surroundings store =
      wallet.synchronizer.accept (store.put new.payload.guid record) new main := left.attempt_eq
  refine ⟨previous, new, record, wasCommitted, ?_, ?_, ?_, ?_, ?_⟩
  · rw [samePayload]
    exact saves previous main candidate wasCommitted built
  · rw [follows.synchronizer, leaves]
    rfl
  · rw [follows.synchronizer, leaves]
    rfl
  · rw [follows.store, leaves]
    exact (Store.record?_put store new.payload.guid new.payload.guid record).trans (if_pos rfl)
  · rw [samePayload]
    exact announced rfl

theorem Command.Saves.numbered {payload next : Payload}
    (saves : command.Saves workplace.services payload next)
    (numbered : payload.Numbered workplace.services.keys.Makes) :
    next.Numbered workplace.services.keys.Makes := by
  cases saves with
  | again same => exact same ▸ numbered
  | changed _ _ applied => exact Payload.numbered_of_apply applied numbered

theorem Command.Saves.inherits {payload next : Payload}
    (saves : command.Saves workplace.services payload next)
    (tellsApart : workplace.services.keys.TellsApart) (valid : payload.validate = .ok ())
    (numbered : payload.Numbered workplace.services.keys.Makes) {i : Nat} {account : Account}
    {xpub : String} (isAccount : next.accounts[i]? = some account)
    (hasXpub : account.defaultXpub? = some xpub) :
    account.Inherits payload (∃ second, command = .upgradeToSegwit second) xpub := by
  cases saves with
  | again same => exact Account.inherits_self (same ▸ isAccount) hasXpub
  | changed keepsLabels switches applied =>
    exact (Account.inherits_of_apply tellsApart valid numbered applied keepsLabels isAccount
      hasXpub).imp switches

/-- The next index of an account is the one from which on its addresses were announced, unless the
command is an upgrade to segwit that announced them from the first index on although that index has
a label. -/
theorem Announced.nextFree {old new : Committed} {record : Record} {reply : Reply Answer}
    (left : wallet.Announced workplace command old new record reply)
    (tellsApart : workplace.services.keys.TellsApart)
    (kept : Kept workplace.services.keys wallet.synchronizer.allocator old.payload) {i : Nat}
    {account : Account} {xpub : String} (isAccount : new.payload.accounts[i]? = some account)
    (hasXpub : account.defaultXpub? = some xpub) :
    reply.wallet.synchronizer.allocator.nextFree xpub account.defaultScheme =
        wallet.synchronizer.allocator.nextFree xpub account.defaultScheme ∨
      (∃ second, command = .upgradeToSegwit second) ∧
        wallet.synchronizer.allocator.nextFree xpub account.defaultScheme = .ok 0 ∧
        (account.addressLabels.find? 0).isSome = true := by
  rw [left.synced]
  exact nextFree_syncLabels kept tellsApart (left.saves.numbered kept.numbered) isAccount hasXpub
    (left.saves.inherits tellsApart kept.valid kept.numbered isAccount hasXpub)

/-- Announced addresses are the next receive addresses. A command that announces and succeeds leaves
the record of the payload that it leaves committed with a list of addresses: those of each account
in use, one account after the other, and the imported addresses in use. The addresses of an account
are those of its default chain, as many as are to be announced, from the next receive position on
that the wallet then has. The wallet has not been created, recovered, loaded or wiped again on the
way, and the keys tell accounts apart. Then only an upgrade to segwit may announce other addresses:
it announces from the first index on, and where that index has a label the next position is a later
one. -/
theorem Reached.announces_next_addresses (reached : Reached keys wallet)
    (tellsApart : keys.TellsApart) (sameKeys : workplace.services.keys = keys)
    (announces : command.Announces)
    (succeeds : (wallet.perform workplace store draw command).result = .ok answer) :
    ∃ (payload : Payload) (record : Record) (addresses : Account → List String),
      (wallet.perform workplace store draw command).wallet.payload = .ok payload ∧
      (wallet.perform workplace store draw command).store.record? payload.guid = some record ∧
      record.announced = payload.activeAccounts.flatMap (fun entry => addresses entry.1) ++
        payload.activeImported.map ImportedAddress.address ∧
      ∀ account position, (account, position) ∈ payload.activeAccounts → ∃ scheme xpub start,
        (wallet.perform workplace store draw command).wallet.accountChain (UInt64.ofNat position) =
          .ok (scheme, xpub) ∧
        keys.RunsFrom xpub scheme start workplace.config.lookahead (addresses account) ∧
        ((wallet.perform workplace store draw command).wallet.nextReceivePosition
          (UInt64.ofNat position) = .ok start ∨
          (∃ second, command = .upgradeToSegwit second) ∧ start = 0 ∧
            (account.addressLabels.find? 0).isSome = true) := by
  subst sameKeys
  obtain ⟨old, new, record, left⟩ := announced_of_perform announces succeeds
  generalize wallet.perform workplace store draw command = reply at left ⊢
  have kept := reached.keeps tellsApart old left.wasCommitted
  obtain ⟨derived, isAnnounced⟩ := Synchronizer.announcedAddresses_eq_ok.mp left.announced
  refine ⟨new.payload, record, _, payload_of_committed left.isCommitted, left.isStored,
    isAnnounced, ?_⟩
  intro account position isActive
  have isAccount : new.payload.accounts[position]? = some account :=
    List.mem_zipIdx_iff_getElem?.mp (List.mem_filter.mp isActive).1
  obtain ⟨xpub, hasXpub, isPreferred, isChain⟩ :=
    accountChain_of_account left.isCommitted (left.saves.numbered kept.numbered) isAccount
  obtain ⟨addresses, own⟩ := derived _ isActive
  obtain ⟨start, isStart, runs⟩ := (Synchronizer.accountAddresses_eq_ok isPreferred hasXpub).mp own
  refine ⟨_, xpub, start, isChain, ?_, ?_⟩
  · rw [Synchronizer.addressesOf, own]
    exact KeySource.runsFrom_of_receiveAddresses runs
  · rw [nextReceivePosition_of_chain isChain]
    rcases left.nextFree tellsApart kept isAccount hasXpub with
      same | ⟨isUpgrade, isFirst, isLabelled⟩
    · exact .inl (same.trans isStart)
    · cases isStart.symm.trans isFirst
      exact .inr ⟨isUpgrade, rfl, isLabelled⟩

end Wallet

/-! ## A new wallet -/

/-- With keys that spell their paths, addresses can be announced as long as their indexes are
small. -/
theorem Toy.announcedAddresses_succeeds {synchronizer : Synchronizer} {surroundings : Surroundings}
    {payload : Payload} (sameKeys : surroundings.services.keys = keySource)
    (numbered : payload.Numbered Toy.keySource.Makes)
    (inRange : ∀ account ∈ payload.accounts, ∀ xpub, account.defaultXpub? = some xpub →
      ∃ start, synchronizer.allocator.nextFree xpub account.defaultScheme = .ok start ∧
        start.toNat + surroundings.lookahead.toNat ≤ 0x80000000) :
    ∃ announced, synchronizer.announcedAddresses surroundings payload = .ok announced := by
  refine ⟨_, Synchronizer.announcedAddresses_eq_ok.mpr ⟨fun entry isActive => ?_, rfl⟩⟩
  have isAccount : payload.accounts[entry.2]? = some entry.1 :=
    List.mem_zipIdx_iff_getElem?.mp (List.mem_filter.mp isActive).1
  obtain ⟨_, _, carries⟩ := numbered entry.2 entry.1 isAccount
  obtain ⟨xpub, hasXpub⟩ := carries.defaultXpub?
  obtain ⟨path, rfl⟩ := Toy.pub_of_default carries hasXpub
  obtain ⟨start, isNext, small⟩ := inRange entry.1 (List.mem_of_getElem? isAccount) _ hasXpub
  have inRange : start.toNat + min surroundings.lookahead.toNat (0xffffffff - start.toNat) ≤
    0x80000000 := by omega
  obtain ⟨addresses, derived⟩ := Toy.addressesFrom_pub path entry.1.defaultScheme inRange
  refine ⟨addresses, (Synchronizer.accountAddresses_eq_ok carries.defaultScheme hasXpub).mpr
    ⟨start, isNext, ?_⟩⟩
  rw [sameKeys]
  exact derived

namespace Toy

open Wallet

/-- What is left after the wallet that told an address announced its addresses. -/
def announcing (workplace : Workplace) : Reply Answer :=
  (told workplace).wallet.perform workplace (told workplace).store ⟨"", "", []⟩ .announce

variable {workplace : Workplace} {path address : String} {old : Committed} {body : Body}
  {account : Account} {seed : Bytes}

theorem Tells.announces (tells : Tells workplace path address old body account seed)
    (hosts : Hosts workplace) (inRange : workplace.config.lookahead.toNat < 0x80000000) :
    ∃ new record, (announcing workplace).result = .ok (.committed new) ∧ new.payload = old.payload ∧
      (told workplace).wallet.Announced workplace .announce old new record
        (announcing workplace) := by
  obtain ⟨device, hasDevice⟩ := hosts.hasDevice
  have kept := tells.reached.keeps keySource_tellsApart old tells.inStep.isCommitted
  obtain ⟨isChain, isNext⟩ := nextOn_eq_ok.mp tells.isNext
  obtain ⟨payload, _, isPayload, isAccount, isLegacy, hasXpub⟩ := accountChain_eq_ok.mp isChain
  cases tells.isPayload.symm.trans isPayload
  rw [Payload.account_eq_ok, tells.accounts] at isAccount
  cases isAccount
  have announces : ∃ announced,
      (told workplace).wallet.synchronizer.announcedAddresses workplace.surroundings old.payload =
        .ok announced := by
    refine announcedAddresses_succeeds (congrArg Services.keys hosts.services) kept.numbered
      fun own isIn ownXpub hasOwn => ?_
    cases List.mem_singleton.mp (tells.accounts ▸ isIn)
    cases hasXpub.symm.trans hasOwn
    refine ⟨1, isLegacy ▸ isNext, ?_⟩
    rw [UInt32.toNat_one, Nat.add_comm]
    exact inRange
  obtain ⟨new, saved, samePayload, left⟩ := mutate_in_step workplace true .ok tells.inStep
    hosts.encrypts hasDevice rfl kept.valid old.payload.checkSucceeds_self rfl fun _ => announces
  have succeeds : (announcing workplace).result = .ok (.committed new) :=
    congrArg (Except.map Answer.committed) saved
  have isCommand : Command.announce.Announces := trivial
  obtain ⟨_, _, record, isAnnounced⟩ := announced_of_perform isCommand succeeds
  cases tells.inStep.isCommitted.symm.trans isAnnounced.wasCommitted
  cases left.isCommitted.symm.trans isAnnounced.isCommitted
  exact ⟨new, record, succeeds, samePayload, isAnnounced⟩

end Toy

namespace Wallet

/-- A wallet that told the address of its first index, which has a label since, announces the
addresses of the twenty indexes after it. -/
theorem announces_next_addresses_told : ∃ (answer : Answer) (payload : Payload) (account : Account)
    (record : Record) (scheme : Scheme) (xpub : String),
      Reached Toy.keySource (Toy.told Toy.workplace).wallet ∧
      (Toy.announcing Toy.workplace).result = .ok answer ∧
      (Toy.announcing Toy.workplace).wallet.payload = .ok payload ∧
      payload.accounts = [account] ∧ account.addressLabels.find? 0 = some "rent" ∧
      (Toy.announcing Toy.workplace).store.record? payload.guid = some record ∧
      (Toy.announcing Toy.workplace).wallet.accountChain 0 = .ok (scheme, xpub) ∧
      (Toy.announcing Toy.workplace).wallet.nextReceivePosition 0 = .ok 1 ∧
      record.announced.length = 20 ∧
        ∀ (k : Nat) (address : String), record.announced[k]? = some address →
        Toy.keySource.addressAt xpub scheme .receive (UInt32.ofNat (1 + k)) = .ok address := by
  obtain ⟨_, _, path, starts⟩ := Toy.workplace_hosts.starts
  obtain ⟨_, old, _, account, _, tells⟩ := Toy.workplace_hosts.tells starts
  obtain ⟨new, _, succeeds, samePayload, left⟩ := tells.announces Toy.workplace_hosts (by decide)
  have isCommand : Command.announce.Announces := trivial
  obtain ⟨payload, record, addresses, isPayload, isStored, isAnnounced, each⟩ :=
    tells.reached.announces_next_addresses Toy.keySource_tellsApart rfl isCommand succeeds
  cases isPayload.symm.trans (payload_of_committed left.isCommitted)
  have accounts := samePayload ▸ tells.accounts
  have active : new.payload.activeAccounts = [(account, 0)] := by
    simp [Payload.activeAccounts, accounts, tells.labelled.inUse]
  have inactive : new.payload.activeImported = [] := by
    rw [samePayload, Payload.activeImported, tells.labelled.noImported]
    rfl
  rw [active, inactive, List.flatMap_singleton, List.map_nil, List.append_nil] at isAnnounced
  obtain ⟨scheme, xpub, start, isChain, runs, isNext⟩ :=
    each account 0 (by rw [active]; exact List.mem_singleton_self _)
  have isNext := isNext.resolve_right fun isUpgrade => nomatch isUpgrade.1
  -- The position is the one that the wallet had before it announced.
  have isSecond : (Toy.announcing Toy.workplace).wallet.nextReceivePosition 0 = .ok 1 := by
    have kept := tells.reached.keeps Toy.keySource_tellsApart old tells.inStep.isCommitted
    obtain ⟨wasChain, wasNext⟩ := nextOn_eq_ok.mp tells.isNext
    obtain ⟨_, _, wasPayload, wasAccount, isLegacy, hasXpub⟩ := accountChain_eq_ok.mp wasChain
    cases tells.isPayload.symm.trans wasPayload
    rw [Payload.account_eq_ok, tells.accounts] at wasAccount
    cases wasAccount
    have isAccount : new.payload.accounts[0]? = some account := by rw [accounts]; rfl
    obtain ⟨_, hasOther, _, isOwnChain⟩ :=
      accountChain_of_account left.isCommitted (samePayload ▸ kept.numbered) isAccount
    cases hasXpub.symm.trans hasOther
    rcases left.nextFree Toy.keySource_tellsApart kept isAccount hasXpub with same | isUpgrade
    · exact (nextReceivePosition_of_chain isOwnChain).trans (same.trans (isLegacy ▸ wasNext))
    · obtain ⟨⟨_, isOther⟩, _⟩ := isUpgrade
      cases isOther
  cases isSecond.symm.trans isNext
  refine ⟨_, _, account, record, scheme, xpub, tells.reached, succeeds, isPayload, accounts, ?_,
    isStored, isChain, isSecond, ?_, ?_⟩
  · rw [tells.labelled.labels]
    decide
  · rw [isAnnounced]
    exact runs.length (by decide)
  · intro k address isAddress
    rw [isAnnounced] at isAddress
    exact runs.each k address isAddress

end Wallet

/-! ## A label that is announced -/

namespace Payload

variable {payload next : Payload} {account old : Account}

/-- An upgrade to segwit leaves each account of a valid wallet its labels and its use. -/
theorem account_after_upgradeToSegwit {services : Services} {i : Nat}
    (valid : payload.validate = .ok ())
    (upgraded : payload.upgradeToSegwit services none = .ok next)
    (wasAccount : payload.accounts[i]? = some old) :
    ∃ account, next.accounts[i]? = some account ∧ account.addressLabels = old.addressLabels ∧
      account.archived = old.archived := by
  have applied : (Transition.upgradeToSegwit none).apply services payload = .ok next := upgraded
  obtain ⟨_, _, _, effect⟩ := exists_effect applied
  obtain ⟨account, isAccount, _⟩ :=
    (effect.extends (sound_of_valid valid)).accounts i old wasAccount
  obtain ⟨other, wasOther, sameLabels, sameUse⟩ := account_of_upgradeToSegwit upgraded isAccount
  cases wasAccount.symm.trans wasOther
  exact ⟨account, isAccount, sameLabels, sameUse⟩

end Payload

namespace Toy

open Wallet

variable {workplace : Workplace} {path address : String} {old : Committed} {body : Body}
  {account : Account} {seed : Bytes}

/-- What is left after the wallet that told an address was upgraded to segwit. -/
def upgraded (workplace : Workplace) : Reply Answer :=
  (told workplace).wallet.perform workplace (told workplace).store ⟨"", "", []⟩
    (.upgradeToSegwit none)

/-- The next index of the upgraded account was the first one before the labels were taken over, and
is the second one after that. -/
structure Upgrades (workplace : Workplace) (old new : Committed) (record : Record)
    (account : Account) (xpub : String) : Prop where
  reached : Reached keySource (upgraded workplace).wallet
  succeeds : (upgraded workplace).result = .ok (.committed new)
  left : (told workplace).wallet.Announced workplace (.upgradeToSegwit none) old new record
    (upgraded workplace)
  isFourth : new.payload.version = .v4
  numbered : new.payload.Numbered keySource.Makes
  accounts : new.payload.accounts = [account]
  inUse : account.archived = false
  labels : account.addressLabels = SortedMap.empty.insert 0 "rent"
  hasXpub : account.defaultXpub? = some xpub
  wasFirst : (told workplace).wallet.synchronizer.allocator.nextFree xpub account.defaultScheme =
    .ok 0
  isSecond : (upgraded workplace).wallet.synchronizer.allocator.nextFree xpub
    account.defaultScheme = .ok 1

theorem Tells.upgrade_saves (tells : Tells workplace path address old body account seed)
    (hosts : Hosts workplace) (inRange : workplace.config.lookahead.toNat ≤ 0x80000000) :
    ∃ new, (upgraded workplace).result = .ok (.committed new) ∧
      old.payload.upgradeToSegwit services none = .ok new.payload ∧ new.payload.version = .v4 ∧
      new.payload.accounts.length = body.accounts.length ∧
      (upgraded workplace).wallet.synchronizer.InStep (upgraded workplace).store new := by
  obtain ⟨device, hasDevice⟩ := hosts.hasDevice
  have kept := tells.reached.keeps keySource_tellsApart old tells.inStep.isCommitted
  obtain ⟨next, isUpgraded, isFourth, length⟩ := upgradeToSegwit_succeeds tells.labelled.isThird
    tells.labelled.isPlain tells.labelled.onlyBody tells.labelled.revealed
    (by simp [tells.labelled.accounts])
  have applied : (Transition.upgradeToSegwit none).apply services old.payload = .ok next :=
    isUpgraded
  have numbered : next.Numbered keySource.Makes := Payload.numbered_of_apply applied kept.numbered
  have announces : ∃ announced,
      (told workplace).wallet.synchronizer.announcedAddresses workplace.surroundings next =
        .ok announced := by
    refine announcedAddresses_succeeds (congrArg Services.keys hosts.services) numbered
      fun account isIn xpub _ => ?_
    obtain ⟨i, isAccount⟩ := List.getElem?_of_mem isIn
    have wasFirst := Allocator.nextFree_of_fresh
      (kept.fresh_of_addsSegwit numbered applied rfl isAccount xpub)
    exact ⟨0, wasFirst, Nat.le_trans (Nat.le_of_eq (Nat.zero_add _)) inRange⟩
  have isCall : (told workplace).wallet.call? workplace ⟨"", "", []⟩ (.upgradeToSegwit none) =
      some (.change workplace.services true (.upgradeToSegwit none)) := rfl
  obtain ⟨new, rfl, saved, inStep⟩ := change_in_step (.upgradeToSegwit none) isCall tells.inStep
    hosts.encrypts hasDevice kept.valid (hosts.services.symm ▸ applied)
    (fun _ isOther => by cases isOther) fun _ => announces
  exact ⟨new, congrArg (Except.map Answer.committed) saved, isUpgraded, isFourth, length, inStep⟩

theorem Tells.upgrades (tells : Tells workplace path address old body account seed)
    (hosts : Hosts workplace) (inRange : workplace.config.lookahead.toNat ≤ 0x80000000) :
    ∃ new record account xpub, Upgrades workplace old new record account xpub := by
  obtain ⟨new, succeeds, isUpgraded, isFourth, length, inStep⟩ := tells.upgrade_saves hosts inRange
  have kept := tells.reached.keeps keySource_tellsApart old tells.inStep.isCommitted
  have applied : (Transition.upgradeToSegwit none).apply services old.payload = .ok new.payload :=
    isUpgraded
  have numbered := Payload.numbered_of_apply applied kept.numbered
  have isCommand : (Command.upgradeToSegwit none).Announces := trivial
  have goesOn : (Command.upgradeToSegwit none).GoesOn := trivial
  obtain ⟨_, _, record, left⟩ := announced_of_perform isCommand succeeds
  cases inStep.isCommitted.symm.trans left.isCommitted
  cases tells.inStep.isCommitted.symm.trans left.wasCommitted
  obtain ⟨last, isAccount, sameLabels, sameUse⟩ := Payload.account_after_upgradeToSegwit
    kept.valid isUpgraded (by rw [tells.accounts]; rfl : old.payload.accounts[0]? = some account)
  have labels := sameLabels.trans tells.labelled.labels
  obtain ⟨xpub, hasXpub, _⟩ := accountChain_of_account left.isCommitted numbered isAccount
  have fresh := kept.fresh_of_addsSegwit numbered applied rfl isAccount xpub
  obtain ⟨reserved, counter⟩ := (told workplace).wallet.synchronizer.allocator.syncLabels_default
    keySource_tellsApart numbered (List.mem_of_getElem? isAccount) hasXpub
  rw [fresh] at counter
  have accounts : new.payload.accounts = [last] := by
    rw [tells.labelled.accounts, List.length_singleton] at length
    obtain ⟨only, accounts⟩ := List.length_eq_one_iff.mp length
    rw [accounts] at isAccount ⊢
    cases isAccount
    rfl
  refine ⟨new, record, last, xpub,
    tells.reached.performed _ _ (congrArg Services.keys hosts.services) goesOn, succeeds, left,
    isFourth, numbered, accounts, sameUse.trans tells.labelled.inUse, labels, hasXpub,
    Allocator.nextFree_of_fresh fresh, ?_⟩
  have synced : (upgraded workplace).wallet.synchronizer.allocator =
    (told workplace).wallet.synchronizer.allocator.syncLabels new.payload := left.synced
  rw [synced]
  exact nextFree_of_labelled counter (reserved.trans labels)

end Toy

namespace Wallet

/-- An upgrade to segwit announces the address of an index that has a label, and not the next
receive address. -/
theorem upgrade_announces_labelled_address : ∃ (wallet : Wallet) (store : Store) (answer : Answer)
    (payload : Payload) (account : Account) (others : List (Account × Nat)) (record : Record)
    (announced next : String), Reached Toy.keySource wallet ∧
      (wallet.perform Toy.workplace store ⟨"", "", []⟩ (.upgradeToSegwit none)).result =
        .ok answer ∧
      (wallet.perform Toy.workplace store ⟨"", "", []⟩ (.upgradeToSegwit none)).wallet.payload =
        .ok payload ∧
      payload.activeAccounts = (account, 0) :: others ∧
      account.addressLabels.find? 0 = some "rent" ∧
      (wallet.perform Toy.workplace store ⟨"", "", []⟩ (.upgradeToSegwit none)).store.record?
        payload.guid = some record ∧
      record.announced.head? = some announced ∧
      (wallet.perform Toy.workplace store ⟨"", "", []⟩
        (.upgradeToSegwit none)).wallet.nextReceiveAddress Toy.workplace 0 =
        .ok next ∧ announced ≠ next := by
  obtain ⟨_, _, _, starts⟩ := Toy.workplace_hosts.starts
  obtain ⟨_, _, _, _, _, tells⟩ := Toy.workplace_hosts.tells starts
  obtain ⟨new, record, account, xpub, upgrades⟩ := tells.upgrades Toy.workplace_hosts (by decide)
  have isAccount : new.payload.accounts[0]? = some account := by rw [upgrades.accounts]; rfl
  have active : new.payload.activeAccounts = [(account, 0)] := by
    simp [Payload.activeAccounts, upgrades.accounts, upgrades.inUse]
  obtain ⟨other, hasOther, isPreferred, isChain⟩ :=
    accountChain_of_account upgrades.left.isCommitted upgrades.numbered isAccount
  cases upgrades.hasXpub.symm.trans hasOther
  obtain ⟨_, _, carries⟩ := upgrades.numbered 0 account isAccount
  obtain ⟨path, rfl⟩ := Toy.pub_of_default carries upgrades.hasXpub
  obtain ⟨first, second, isFirstAddress, isSecondAddress, differ⟩ :=
    Toy.first_addresses_differ path account.defaultScheme .receive
  refine ⟨_, _, _, _, account, [], record, first, second, tells.reached, upgrades.succeeds,
    payload_of_committed upgrades.left.isCommitted, active, ?_, upgrades.left.isStored,
    ?_, ?_, differ⟩
  · rw [upgrades.labels]
    rfl
  · exact Synchronizer.head?_announced upgrades.left.announced active isPreferred upgrades.hasXpub
      upgrades.wasFirst (by decide) isFirstAddress
  · have isChain : (Toy.upgraded Toy.workplace).wallet.accountChain 0 =
        .ok (account.defaultScheme, "pub-" ++ path) := isChain
    change (Toy.upgraded Toy.workplace).wallet.nextReceiveAddress Toy.workplace 0 = .ok second
    simp only [nextReceiveAddress, isChain, upgrades.isSecond, bind_ok]
    exact liftError_eq_ok.mpr isSecondAddress

end Wallet

end Coffer
