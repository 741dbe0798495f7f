import Coffer.Proofs.Payload.Upkeep
import Coffer.Proofs.Wallet.Calls
import Coffer.Proofs.Wallet.Reservations
/-!
# Saves pass the check before them

Whatever a wallet has committed is valid, however it came about. Since every change makes a valid
payload out of a valid one, the check that comes before each save lets every payload pass that a
command brings to it.
-/

namespace Coffer

def Synchronizer.Valid (synchronizer : Synchronizer) : Prop :=
  ∀ committed, synchronizer.committed = some committed → committed.payload.validate = .ok ()

/-- A call keeps what is committed valid, since it takes over only what was checked on the way in or
out. -/
theorem Outcome.valid {call : Call} {synchronizer : Synchronizer} {surroundings : Surroundings}
    {store : Store} {attempt : Attempt Committed}
    (outcome : Outcome call synchronizer surroundings store attempt)
    (valid : synchronizer.Valid) : attempt.synchronizer.Valid := by
  intro committed isCommitted
  cases outcome with
  | failed => exact valid committed isCommitted
  | loaded opens =>
    cases isCommitted
    exact (unwrap_eq_ok opens).1
  | inserted _ _ saved =>
    rw [saved.attempt_eq] at isCommitted
    cases isCommitted
    exact saved.valid
  | updated _ _ _ _ _ _ _ saved =>
    rw [saved.attempt_eq] at isCommitted
    cases isCommitted
    exact saved.valid

namespace Wallet

/-- The wallets that come about from the one that has loaded nothing, by any commands anywhere. -/
inductive Arises : Wallet → Prop
  | initial : Arises initial
  | performed {wallet : Wallet} (workplace : Workplace) (store : Store) (draw : Draw)
      (command : Command) (arises : Arises wallet) :
      Arises (wallet.perform workplace store draw command).wallet

theorem Reached.arises {keys : KeySource} {wallet : Wallet} (reached : Reached keys wallet) :
    wallet.Arises := by
  induction reached with
  | @created workplace store draw label email password =>
    have arises := Arises.initial.performed workplace store draw (.create label email password)
    simp only [perform, Reply.answer] at arises
    exact arises
  | @recovered workplace store draw phrase label email password =>
    have arises :=
      Arises.initial.performed workplace store draw (.recover phrase label email password)
    simp only [perform, Reply.answer] at arises
    exact arises
  | @loaded _ workplace store guid sharedKey password =>
    have arises :=
      Arises.initial.performed workplace store ⟨"", "", []⟩ (.load guid sharedKey password)
    simp only [perform, Reply.answer] at arises
    exact arises
  | performed store draw _ _ _ ih => exact ih.performed _ store draw _

theorem Arises.valid {wallet : Wallet} (arises : wallet.Arises) : wallet.synchronizer.Valid := by
  induction arises with
  | initial => exact fun committed isCommitted => nomatch isCommitted
  | @performed wallet workplace store draw command arises ih =>
    cases isCall : wallet.call? workplace draw command with
    | none =>
      intro committed isCommitted
      rcases (perform_of_noCall store isCall).committed with same | nothing
      · exact ih committed (same ▸ isCommitted)
      · cases nothing.symm.trans isCommitted
    | some call =>
      rw [(perform_of_call store isCall).synchronizer]
      exact (call.outcome _ _ _).valid ih

end Wallet

/-- The check before a save lets pass whatever the call brings to it. -/
def Call.Passes (call : Call) (synchronizer : Synchronizer) (surroundings : Surroundings)
    (device : Device) : Prop :=
  match call with
  | .saveNew payload _ _ => Synchronizer.checkCandidate surroundings payload none = .ok device
  | .replace replacement => ∀ plan, replacement.plan synchronizer = .ok plan →
      Synchronizer.checkCandidate surroundings plan.candidate (some plan.previous.payload) =
        .ok device
  | .load .. | .loadText .. => True

variable {synchronizer : Synchronizer} {surroundings : Surroundings} {device : Device}

theorem checkCandidate_of_valid {candidate : Payload} {previous : Option Payload}
    (hasDevice : surroundings.device = some device) (valid : candidate.validate = .ok ())
    (succeeds : ∀ earlier, previous = some earlier → candidate.checkSucceeds earlier = .ok ()) :
    Synchronizer.checkCandidate surroundings candidate previous = .ok device := by
  simp only [Synchronizer.checkCandidate, hasDevice, valid, liftError_ok, bind_ok]
  cases previous with
  | none => rfl
  | some earlier => simp only [succeeds earlier rfl, liftError_ok, bind_ok, pure_eq_ok]

namespace Call

/-- A save passes when what it builds from the committed payload is valid and may replace it. -/
theorem passes_mutate {announce : Bool} {build : Payload → String → Except WalletError Payload}
    (hasDevice : surroundings.device = some device)
    (builds : ∀ committed main candidate, synchronizer.committed = some committed →
      build committed.payload main = .ok candidate →
        candidate.validate = .ok () ∧ candidate.checkSucceeds committed.payload = .ok ()) :
    Passes (.replace (.mutate announce build)) synchronizer surroundings device := by
  intro plan planned
  obtain ⟨previous, isCurrent, planned⟩ := bind_eq_ok.mp planned
  obtain ⟨main, _, planned⟩ := bind_eq_ok.mp planned
  obtain ⟨candidate, built, planned⟩ := bind_eq_ok.mp planned
  cases planned
  obtain ⟨valid, succeeds⟩ :=
    builds previous main candidate (Synchronizer.current_eq_ok isCurrent) built
  exact checkCandidate_of_valid hasDevice valid fun _ isEarlier =>
    Option.some.inj isEarlier ▸ succeeds

theorem passes_again {announce : Bool} (hasDevice : surroundings.device = some device)
    (valid : synchronizer.Valid) : Passes (.again announce) synchronizer surroundings device := by
  refine passes_mutate hasDevice fun committed _ candidate isCommitted built => ?_
  cases built
  exact ⟨valid committed isCommitted, committed.payload.checkSucceeds_self⟩

theorem passes_change {services : Services} {announce : Bool} {transition : Transition}
    (hasDevice : surroundings.device = some device) (valid : synchronizer.Valid)
    (watchOnly : ∀ entry, transition = .addImported entry → entry.key = none) :
    Passes (.change services announce transition) synchronizer surroundings device :=
  passes_mutate hasDevice fun committed _ _ isCommitted applied =>
    Payload.valid_of_apply (valid committed isCommitted) applied watchOnly

theorem passes_rewrap {password : String} (hasDevice : surroundings.device = some device)
    (valid : synchronizer.Valid) :
    Passes (.replace (.rewrap password)) synchronizer surroundings device := by
  intro plan planned
  obtain ⟨previous, isCurrent, planned⟩ := bind_eq_ok.mp planned
  cases planned
  refine checkCandidate_of_valid hasDevice (valid previous (Synchronizer.current_eq_ok isCurrent))
    fun _ isEarlier => ?_
  cases isEarlier
  exact previous.payload.checkSucceeds_self

end Call

namespace Wallet

variable {wallet : Wallet} {workplace : Workplace} {draw : Draw}

/-- The command stores a wallet for the first time. -/
def Command.StoresNew : Command → Prop
  | .create .. | .recover .. => True
  | _ => False

theorem valid_restored {phrase label : String} {payload : Payload}
    (positive : 0 < workplace.config.iterations)
    (named : draw.guid ≠ "") (keyed : draw.sharedKey ≠ "")
    (isRestored : restored? workplace draw phrase label = some payload) :
    payload.validate = .ok () := by
  simp only [restored?, Option.bind_eq_bind, Option.bind_eq_some_iff,
    toOption_eq_some] at isRestored
  obtain ⟨entropy, _, first, made, search, ran, same⟩ := isRestored
  cases same
  have valid := Payload.valid_hierarchical named keyed positive made
  have adds {payload next : Payload} {label : String} (valid : payload.validate = .ok ())
      (added : payload.addAccount workplace.services label none = .ok next) :
      next.validate = .ok () := by
    have applied : (Transition.addAccount label none).apply workplace.services payload = .ok next :=
      added
    exact (Payload.valid_of_apply valid applied fun _ isOther => by cases isOther).1
  exact (Search.Both.run adds ⟨valid, valid⟩ ran).kept

theorem valid_imported {wif : String} {label second : Option String} {committed : Committed}
    {next : Payload} (valid : wallet.synchronizer.Valid)
    (isCommitted : wallet.synchronizer.committed = some committed)
    (isImported : wallet.imported? workplace wif label second = some next) :
    next.validate = .ok () ∧ next.checkSucceeds committed.payload = .ok () := by
  obtain ⟨device, payload, entry, _, isPayload, imported⟩ := imported?_eq_some isImported
  obtain ⟨other, isCurrent, rfl⟩ := map_eq_ok.mp isPayload
  cases (Synchronizer.current_eq_ok isCurrent).symm.trans isCommitted
  have applied : (Transition.importKey wif label device second).apply workplace.services
      committed.payload = .ok next :=
    map_eq_ok.mpr ⟨_, imported, rfl⟩
  exact Payload.valid_of_apply (valid committed isCommitted) applied fun _ isOther =>
    nomatch isOther

theorem passes_of_call {device : Device} {command : Command} {call : Call}
    (valid : wallet.synchronizer.Valid) (hasDevice : workplace.config.device = some device)
    (new : command.StoresNew → 0 < workplace.config.iterations ∧ draw.guid ≠ "" ∧
      draw.sharedKey ≠ "")
    (isCall : wallet.call? workplace draw command = some call) :
    call.Passes wallet.synchronizer workplace.surroundings device := by
  have hasDevice : workplace.surroundings.device = some device := hasDevice
  cases command
  case create =>
    obtain ⟨payload, made, rfl⟩ := Option.map_eq_some_iff.mp isCall
    obtain ⟨positive, named, keyed⟩ := new trivial
    have valid := Payload.valid_hierarchical named keyed positive (toOption_eq_some.mp made)
    exact checkCandidate_of_valid hasDevice valid fun _ isEarlier => by cases isEarlier
  case recover =>
    simp only [call?, Option.map_eq_some_iff] at isCall
    obtain ⟨payload, isRestored, rfl⟩ := isCall
    obtain ⟨positive, named, keyed⟩ := new trivial
    exact checkCandidate_of_valid hasDevice (valid_restored positive named keyed isRestored)
      fun _ isEarlier => by cases isEarlier
  case updatePassword =>
    simp only [call?] at isCall
    split at isCall
    · cases isCall
    · cases isCall
      exact Call.passes_rewrap hasDevice valid
  case enableSecond second =>
    cases isCall
    refine Call.passes_mutate hasDevice fun committed main candidate isCommitted built => ?_
    split at built
    · cases built
    · exact Payload.valid_of_apply (valid committed isCommitted) built fun _ isOther => by
        cases isOther
  case watch =>
    cases isCall
    exact Call.passes_change hasDevice valid fun entry isEntry => by cases isEntry; rfl
  case importKey =>
    obtain ⟨next, isImported, rfl⟩ := Option.map_eq_some_iff.mp isCall
    exact Call.passes_mutate hasDevice fun _ _ _ isCommitted built =>
      Except.ok.inj built ▸ valid_imported valid isCommitted isImported
  case setKey =>
    obtain ⟨next, isImported, rfl⟩ := Option.map_eq_some_iff.mp isCall
    exact Call.passes_mutate hasDevice fun _ _ _ isCommitted built =>
      Except.ok.inj built ▸ valid_imported valid isCommitted isImported
  case reserve =>
    simp only [call?, Option.bind_eq_bind, Option.bind_eq_some_iff] at isCall
    obtain ⟨_, _, _, _, isCall⟩ := isCall
    split at isCall
    · cases isCall
    · cases isCall
      exact Call.passes_change hasDevice valid fun _ isOther => by cases isOther
  case nextReceiveAndReserve =>
    obtain ⟨_, _, rfl⟩ := Option.map_eq_some_iff.mp isCall
    exact Call.passes_change hasDevice valid fun _ isOther => by cases isOther
  case save => cases isCall; exact Call.passes_again hasDevice valid
  case announce => cases isCall; exact Call.passes_again hasDevice valid
  case load => cases isCall; trivial
  case loadText => cases isCall; trivial
  all_goals
    cases isCall <;> exact Call.passes_change hasDevice valid fun _ isOther => by cases isOther

/-- Every new payload is valid, and every change of a valid payload that adds no key as it is given
makes a valid payload, which may replace it. So whatever a wallet on a device has been through, a
command asks nothing of the store, or it leaves what a call leaves that passes the check before the
save. -/
theorem every_save_passes :
    (∀ {guid sharedKey : String} {iterations : UInt32},
      guid ≠ "" → sharedKey ≠ "" → 0 < iterations →
      (Payload.flat guid sharedKey iterations).validate = .ok () ∧
        ∀ {keys : KeySource} {label : String} {entropy : Bytes} {payload : Payload},
          Payload.hierarchical keys guid sharedKey label entropy iterations = .ok payload →
            payload.validate = .ok ()) ∧
    (∀ {services : Services} {payload next : Payload} {transition : Transition},
      payload.validate = .ok () → transition.apply services payload = .ok next →
        (∀ entry, transition = .addImported entry → entry.key = none) →
          next.validate = .ok () ∧ next.checkSucceeds payload = .ok ()) ∧
    ∀ (wallet : Wallet) (workplace : Workplace) (store : Store) (draw : Draw) (command : Command)
      (device : Device), wallet.Arises → workplace.config.device = some device →
        (command.StoresNew →
          0 < workplace.config.iterations ∧ draw.guid ≠ "" ∧ draw.sharedKey ≠ "") →
          match wallet.call? workplace draw command with
          | none => Idle wallet store (wallet.perform workplace store draw command)
          | some call =>
            Follows (wallet.perform workplace store draw command)
              (call.perform wallet.synchronizer workplace.surroundings store) ∧
            call.Passes wallet.synchronizer workplace.surroundings device := by
  refine ⟨fun named keyed positive => ?_, fun valid applied watchOnly => ?_,
    fun wallet workplace store draw command device arises hasDevice new => ?_⟩
  · exact ⟨Payload.valid_flat named keyed positive, Payload.valid_hierarchical named keyed positive⟩
  · exact Payload.valid_of_apply valid applied watchOnly
  · split
    · rename_i noCall
      exact perform_of_noCall store noCall
    · rename_i isCall
      exact ⟨perform_of_call store isCall, passes_of_call arises.valid hasDevice new isCall⟩

/-- A new payload is valid and stays so when an index of it is labelled, and what is built from the
payload of a new wallet to add an account passes the check before the save. -/
theorem every_save_passes_new : ∃ (payload next : Payload) (wallet : Wallet)
    (committed : Committed),
      Payload.hierarchical Toy.keySource "guid" "key" "main" (List.replicate 16 0) 5000 =
        .ok payload ∧
      payload.validate = .ok () ∧
      (Transition.labelAddress 0 0 "rent").apply Toy.services payload = .ok next ∧
      next.validate = .ok () ∧ next.checkSucceeds payload = .ok () ∧
      wallet.synchronizer.committed = some committed ∧
      Call.Passes (.change Toy.services true (.addAccount "spare" none)) wallet.synchronizer
        Toy.workplace.surroundings ⟨"android", "1"⟩ := by
  obtain ⟨committed, _, _, starts⟩ := Toy.workplace_hosts.starts
  obtain ⟨payload, next, _, _, _, made, labelled, _⟩ := Toy.new_payload_is_labelled 5000 0
  have ⟨new, changed, passes⟩ := every_save_passes
  have valid := (new (by decide) (by decide) (by decide)).2 made
  obtain ⟨stillValid, succeeds⟩ := changed valid labelled fun _ isOther => nomatch isOther
  have passed := passes (Toy.created Toy.workplace).wallet Toy.workplace
    (Toy.created Toy.workplace).store ⟨"", "", []⟩
    (.addAccount "spare" none) _ starts.reached.arises rfl fun isNew => isNew.elim
  simp only [call?] at passed
  exact ⟨payload, next, _, committed, made, valid, labelled, stillValid, succeeds,
    starts.inStep.isCommitted, passed.2⟩

end Wallet

end Coffer
