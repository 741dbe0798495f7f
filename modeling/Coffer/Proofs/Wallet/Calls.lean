import Coffer.Payload.Transition
import Coffer.Proofs.Synchronizer.Calls
import Coffer.Wallet.Command
/-!
# The call that a command comes to

A command of a wallet comes to one call of its synchronizer, or asks nothing of the store. What the
call leaves is what the command leaves.
-/

namespace Coffer

def Call.change (services : Services) (announce : Bool) (transition : Transition) : Call :=
  .replace (.mutate announce fun payload _ => transition.apply services payload)

def Call.again (announce : Bool) : Call := .replace (.mutate announce fun payload _ => .ok payload)

namespace Wallet

variable {wallet : Wallet} {workplace : Workplace} {draw : Draw} {command : Command}

/-- The payload that a backup phrase is restored to, with the accounts that are found. -/
def restored? (workplace : Workplace) (draw : Draw) (phrase label : String) : Option Payload := do
  let entropy ← (Phrase.restore phrase).toOption
  let payload ← (Payload.hierarchical workplace.services.keys draw.guid draw.sharedKey label entropy
    workplace.config.iterations).toOption
  let search ← (Search.run workplace label Search.fuel (.start payload)).toOption
  return search.kept

def imported? (wallet : Wallet) (workplace : Workplace) (wif : String)
    (label second : Option String) : Option Payload := do
  let device ← (attachingDevice workplace).toOption
  let payload ← wallet.payload.toOption
  let (next, _) ← (payload.importKey workplace.services wif label device second).toOption
  return next

/-- The call of the synchronizer that a command comes to, where it comes to one. -/
def call? (wallet : Wallet) (workplace : Workplace) (draw : Draw) : Command → Option Call
  | .create label email password =>
    (Payload.hierarchical workplace.services.keys draw.guid draw.sharedKey label draw.entropy
      workplace.config.iterations).toOption.map fun payload => .saveNew payload password email
  | .recover phrase label email password =>
    (restored? workplace draw phrase label).map fun payload => .saveNew payload password email
  | .load guid sharedKey password => some (.load guid sharedKey password)
  | .loadText text password => some (.loadText text password)
  | .save => some (.again false)
  | .announce => some (.again true)
  | .updatePassword password =>
    if password.isEmpty then none else some (.replace (.rewrap password))
  | .upgradeToAccounts label second =>
    some (.change workplace.services true (.upgradeToAccounts draw.entropy label second))
  | .upgradeToSegwit second => some (.change workplace.services true (.upgradeToSegwit second))
  | .enableSecond second => some (.replace (.mutate false fun payload main =>
      if main = second then
        .error (.validation (.invalidInput "second password must differ from main password"))
      else (Transition.setSecond second).apply workplace.services payload))
  | .disableSecond second => some (.change workplace.services false (.unsetSecond second))
  | .addAccount label second => some (.change workplace.services true (.addAccount label second))
  | .labelAccount index label => some (.change workplace.services false (.labelAccount index label))
  | .archiveAccount index archived =>
    some (.change workplace.services false (.archiveAccount index archived))
  | .chooseDefault index => some (.change workplace.services false (.chooseDefault index))
  | .markVerified => some (.change workplace.services false (.markVerified true))
  | .watch address label =>
    some (.change workplace.services true (.addImported (.watchOnly address label)))
  | .importKey wif label second =>
    (wallet.imported? workplace wif (if label.isEmpty then none else some label) second).map
      fun payload => .replace (.mutate true fun _ _ => .ok payload)
  | .setKey wif second =>
    (wallet.imported? workplace wif none second).map fun payload =>
      .replace (.mutate true fun _ _ => .ok payload)
  | .archiveImported address archived =>
    some (.change workplace.services true (.archiveImported address archived))
  | .labelImported address label =>
    some (.change workplace.services false (.labelImported address label))
  | .setNote subject note => some (.change workplace.services false (.setNote subject note))
  | .reserve position index label => do
    let payload ← wallet.payload.toOption
    let account ← (payload.account position).toOption
    if account.addressLabels.find? index = some label then none
    else some (.change workplace.services false (.labelAddress position index label))
  | .nextReceiveAndReserve account label =>
    (wallet.nextOn account .receive).toOption.map fun (_, _, index) =>
      .change workplace.services false (.labelAddress account index label)
  | .wipe | .advance .. | .increment .. | .refreshIndexes | .refreshBalances | .adjust .. => none

/-- What a command leaves when it comes to a call: the synchronizer and the store that the call
leaves, and its result, from which the answer is made. -/
structure Follows (reply : Reply Answer) (attempt : Attempt Committed) : Prop where
  synchronizer : reply.wallet.synchronizer = attempt.synchronizer
  store : reply.store = attempt.store
  result : ∃ finish : Committed → Except WalletError Answer, reply.result =
    attempt.result >>= finish

theorem map_eq_bind {ε α β : Type} (attempt : Except ε α) (finish : α → β) :
    attempt.map finish = attempt >>= fun value => .ok (finish value) := by
  cases attempt <;> rfl

theorem map_bind {ε α β γ : Type} (attempt : Except ε α) (next : α → Except ε β) (finish : β → γ) :
    (attempt >>= next).map finish = attempt >>= fun value => (next value).map finish := by
  cases attempt <;> rfl

theorem follows_answer {reply : Reply Committed} {attempt : Attempt Committed}
    (synchronizer : reply.wallet.synchronizer = attempt.synchronizer)
    (store : reply.store = attempt.store) (result : reply.result = attempt.result) :
    Follows (reply.answer .committed) attempt :=
  ⟨synchronizer, store, _, (congrArg _ result).trans (map_eq_bind _ _)⟩

theorem follows_settleLoad (wallet : Wallet) (attempt : Attempt Committed) :
    Follows ((wallet.settleLoad attempt).answer .committed) attempt := by
  unfold settleLoad
  split <;> exact follows_answer rfl rfl rfl

theorem imported?_eq_some {wif : String} {label second : Option String} {next : Payload}
    (isImported : wallet.imported? workplace wif label second = some next) :
    ∃ device payload entry, attachingDevice workplace = .ok device ∧ wallet.payload = .ok payload ∧
      payload.importKey workplace.services wif label device second = .ok (next, entry) := by
  simp only [imported?, Option.bind_eq_bind, Option.bind_eq_some_iff,
    toOption_eq_some] at isImported
  obtain ⟨device, hasDevice, payload, isPayload, ⟨_, entry⟩, imported, same⟩ := isImported
  cases same
  exact ⟨device, payload, entry, hasDevice, isPayload, imported⟩

theorem follows_attachKey (store : Store) {wif : String} {label second : Option String}
    {next : Payload} (isImported : wallet.imported? workplace wif label second = some next) :
    Follows ((wallet.attachKey workplace store wif label second).answer .entry)
      (Call.perform (.replace (.mutate true fun _ _ => .ok next)) wallet.synchronizer
        workplace.surroundings store) := by
  obtain ⟨device, payload, entry, hasDevice, isPayload, imported⟩ := imported?_eq_some isImported
  simp only [attachKey, hasDevice, isPayload, imported, bind_ok]
  refine ⟨rfl, rfl, fun _ => .ok (.entry entry), ?_⟩
  change ((wallet.synchronizer.mutate workplace.surroundings store true fun _ _ =>
    .ok next).result.map _).map _ =
    (wallet.synchronizer.mutate workplace.surroundings store true fun _ _ => .ok next).result >>= _
  cases (wallet.synchronizer.mutate workplace.surroundings store true fun _ _ =>
    .ok next).result <;> rfl

theorem perform_of_call (store : Store) {call : Call}
    (isCall : wallet.call? workplace draw command = some call) :
    Follows (wallet.perform workplace store draw command)
      (call.perform wallet.synchronizer workplace.surroundings store) := by
  cases command
  case create =>
    obtain ⟨payload, made, rfl⟩ := Option.map_eq_some_iff.mp isCall
    rw [toOption_eq_some] at made
    simp only [perform, create, made]
    exact follows_answer rfl rfl rfl
  case recover =>
    simp only [call?, Option.map_eq_some_iff] at isCall
    obtain ⟨kept, isRestored, rfl⟩ := isCall
    simp only [restored?, Option.bind_eq_bind, Option.bind_eq_some_iff,
      toOption_eq_some] at isRestored
    obtain ⟨entropy, restored, payload, made, search, ran, same⟩ := isRestored
    cases same
    simp only [perform, recover, restored, liftError_ok, bind_ok, made, ran]
    exact follows_answer rfl rfl rfl
  case load =>
    cases isCall
    exact follows_settleLoad _ _
  case loadText =>
    cases isCall
    exact follows_settleLoad _ _
  case updatePassword =>
    simp only [call?] at isCall
    split at isCall
    · cases isCall
    · rename_i nonempty
      cases isCall
      simp only [perform, updatePassword, if_neg nonempty]
      exact follows_answer rfl rfl rfl
  case importKey =>
    obtain ⟨next, isImported, rfl⟩ := Option.map_eq_some_iff.mp isCall
    exact follows_attachKey store isImported
  case setKey =>
    obtain ⟨next, isImported, rfl⟩ := Option.map_eq_some_iff.mp isCall
    exact follows_attachKey store isImported
  case reserve =>
    simp only [call?, Option.bind_eq_bind, Option.bind_eq_some_iff, toOption_eq_some] at isCall
    obtain ⟨payload, isPayload, account, isAccount, isCall⟩ := isCall
    obtain ⟨committed, isCurrent, rfl⟩ := map_eq_ok.mp isPayload
    split at isCall
    · cases isCall
    · rename_i unlabelled
      cases isCall
      simp only [perform, reserve, isCurrent, isAccount, liftError_ok, bind_ok, pure_eq_ok,
        beq_iff_eq, unlabelled, if_false]
      exact follows_answer rfl rfl rfl
  case nextReceiveAndReserve =>
    obtain ⟨⟨scheme, xpub, index⟩, isNext, rfl⟩ := Option.map_eq_some_iff.mp isCall
    rw [toOption_eq_some] at isNext
    simp only [perform, nextReceiveAndReserve, isNext]
    exact ⟨rfl, rfl, _, map_bind _ _ _⟩
  all_goals
    cases isCall <;> exact follows_answer rfl rfl rfl

theorem toOption_eq_none {ε α : Type} {attempt : Except ε α} :
    attempt.toOption = none ↔ ∃ cause, attempt = .error cause := by
  cases attempt <;> simp [Except.toOption]

/-- What a command leaves when it asks nothing of the store: the store, and what is committed unless
it is forgotten. -/
structure Idle (wallet : Wallet) (store : Store) (reply : Reply Answer) : Prop where
  store : reply.store = store
  committed : reply.wallet.synchronizer.committed = wallet.synchronizer.committed ∨
    reply.wallet.synchronizer.committed = none

/-- The main password stays as well, unless it is forgotten with what is committed. -/
structure Rests (wallet : Wallet) (store : Store) (reply : Reply Answer) :
    Prop extends Idle wallet store reply where
  password : reply.wallet.synchronizer.password = wallet.synchronizer.password ∨
    reply.wallet.synchronizer.committed = none

theorem attachKey_of_noCall (store : Store) {wif : String} {label second : Option String}
    (noneImported : wallet.imported? workplace wif label second = none) :
    Rests wallet store ((wallet.attachKey workplace store wif label second).answer .entry) := by
  simp only [Reply.answer, attachKey]
  split
  · exact ⟨⟨rfl, .inl rfl⟩, .inl rfl⟩
  · rename_i payload entry imported
    obtain ⟨device, hasDevice, imported⟩ := bind_eq_ok.mp imported
    obtain ⟨before, isPayload, imported⟩ := bind_eq_ok.mp imported
    simp [imported?, hasDevice, isPayload, imported, Except.toOption] at noneImported

/-- A command that comes to no call asks nothing of the store and sets no main password. -/
theorem rests_of_noCall (store : Store) (noCall : wallet.call? workplace draw command = none) :
    Rests wallet store (wallet.perform workplace store draw command) := by
  cases command
  case wipe => exact ⟨⟨rfl, .inr rfl⟩, .inr rfl⟩
  case create =>
    obtain ⟨cause, failed⟩ := toOption_eq_none.mp (Option.map_eq_none_iff.mp noCall)
    simp only [perform, create, failed]
    exact ⟨⟨rfl, .inl rfl⟩, .inl rfl⟩
  case recover phrase label email password =>
    simp only [call?, Option.map_eq_none_iff] at noCall
    simp only [perform, Reply.answer, recover]
    split
    · exact ⟨⟨rfl, .inl rfl⟩, .inl rfl⟩
    · rename_i payload restored
      obtain ⟨entropy, isEntropy, made⟩ := bind_eq_ok.mp restored
      split
      · exact ⟨⟨rfl, .inl rfl⟩, .inl rfl⟩
      · rename_i search ran
        rw [liftError_eq_ok] at isEntropy
        simp [restored?, isEntropy, made, ran, Except.toOption] at noCall
  case updatePassword password =>
    simp only [call?] at noCall
    split at noCall
    · rename_i empty
      simp only [perform, updatePassword, if_pos empty]
      exact ⟨⟨rfl, .inl rfl⟩, .inl rfl⟩
    · cases noCall
  case importKey => exact attachKey_of_noCall store (Option.map_eq_none_iff.mp noCall)
  case setKey => exact attachKey_of_noCall store (Option.map_eq_none_iff.mp noCall)
  case reserve position index label =>
    simp only [perform, Reply.answer, reserve]
    split
    · exact ⟨⟨rfl, .inl rfl⟩, .inl rfl⟩
    · rename_i committed isReserved reserved
      obtain ⟨_, isCurrent, reserved⟩ := bind_eq_ok.mp reserved
      obtain ⟨account, isAccount, reserved⟩ := bind_eq_ok.mp reserved
      cases reserved
      rw [liftError_eq_ok] at isAccount
      split
      · exact ⟨⟨rfl, .inl rfl⟩, .inl rfl⟩
      · rename_i unlabelled
        rw [beq_iff_eq] at unlabelled
        simp [call?, payload, isCurrent, isAccount, unlabelled, Except.toOption] at noCall
  case nextReceiveAndReserve =>
    obtain ⟨cause, failed⟩ := toOption_eq_none.mp (Option.map_eq_none_iff.mp noCall)
    simp only [perform, nextReceiveAndReserve, failed]
    exact ⟨⟨rfl, .inl rfl⟩, .inl rfl⟩
  case advance =>
    simp only [perform, offline, advance]
    split <;> exact ⟨⟨rfl, .inl rfl⟩, .inl rfl⟩
  case increment =>
    simp only [perform, offline, increment]
    split <;> exact ⟨⟨rfl, .inl rfl⟩, .inl rfl⟩
  case refreshIndexes =>
    simp only [perform, offline, refreshIndexes]
    split
    · exact ⟨⟨rfl, .inl rfl⟩, .inl rfl⟩
    · split <;> exact ⟨⟨rfl, .inl rfl⟩, .inl rfl⟩
  case refreshBalances =>
    simp only [perform, offline, refreshBalances]
    split <;> exact ⟨⟨rfl, .inl rfl⟩, .inl rfl⟩
  case adjust => exact ⟨⟨rfl, .inl rfl⟩, .inl rfl⟩
  all_goals cases noCall

theorem perform_of_noCall (store : Store) (noCall : wallet.call? workplace draw command = none) :
    Idle wallet store (wallet.perform workplace store draw command) :=
  (rests_of_noCall store noCall).toIdle

end Wallet

end Coffer
