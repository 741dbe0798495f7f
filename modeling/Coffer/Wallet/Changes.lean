import Coffer.Payload.Imports
import Coffer.Payload.Upgrade
import Coffer.Wallet.Basic
/-!
# Changes of wallets

Each change is a change of the committed payload that is saved at once. Changes that add addresses
announce them.
-/

namespace Coffer.Wallet

/-- Gives an old wallet accounts; its first backup phrase comes from the given entropy. -/
def upgradeToAccounts (wallet : Wallet) (workplace : Workplace) (store : Store) (entropy : Bytes)
    (label : String) (second : Option String) : Reply Committed :=
  wallet.mutate workplace store true
    fun payload => payload.upgradeToAccounts workplace.services entropy label second

def upgradeToSegwit (wallet : Wallet) (workplace : Workplace) (store : Store)
    (second : Option String) : Reply Committed :=
  wallet.mutate workplace store true fun payload =>
    payload.upgradeToSegwit workplace.services second

/-- Sets a second password, which may not be the main one. -/
def enableSecond (wallet : Wallet) (workplace : Workplace) (store : Store) (second : String) :
    Reply Committed :=
  wallet.settle (wallet.synchronizer.mutate workplace.surroundings store false fun payload main =>
    if main = second then
      .error (.validation (.invalidInput "second password must differ from main password"))
    else payload.setSecond workplace.services.cipher workplace.services.seed second)

def disableSecond (wallet : Wallet) (workplace : Workplace) (store : Store) (second : String) :
    Reply Committed :=
  wallet.mutate workplace store false fun payload =>
    payload.unsetSecond workplace.services.cipher second

def checkSecond (wallet : Wallet) (workplace : Workplace) (second : Option String) :
    Except WalletError Unit := do
  (← wallet.payload).checkSecond workplace.services.cipher second

def revealPhrase (wallet : Wallet) (workplace : Workplace) (second : Option String) :
    Except WalletError String := do
  (← wallet.payload).revealPhrase workplace.services.cipher second

def addAccount (wallet : Wallet) (workplace : Workplace) (store : Store) (label : String)
    (second : Option String) : Reply Committed :=
  wallet.mutate workplace store true fun payload =>
    payload.addAccount workplace.services label second

def labelAccount (wallet : Wallet) (workplace : Workplace) (store : Store) (index : UInt64)
    (label : String) : Reply Committed :=
  wallet.mutate workplace store false fun payload => payload.labelAccount index label

def archiveAccount (wallet : Wallet) (workplace : Workplace) (store : Store) (index : UInt64)
    (archived : Bool) : Reply Committed :=
  wallet.mutate workplace store false fun payload => payload.archiveAccount index archived

def chooseDefault (wallet : Wallet) (workplace : Workplace) (store : Store) (index : UInt64) :
    Reply Committed :=
  wallet.mutate workplace store false fun payload => payload.chooseDefault index

/-- Records that the user has shown to have the backup phrase. -/
def markVerified (wallet : Wallet) (workplace : Workplace) (store : Store) : Reply Committed :=
  wallet.mutate workplace store false fun payload => payload.markVerified true

def isVerified (wallet : Wallet) : Bool := (wallet.payload?.map Payload.isVerified).getD false

def watch (wallet : Wallet) (workplace : Workplace) (store : Store) (address label : String) :
    Reply Committed :=
  wallet.mutate workplace store true fun payload => payload.addImported (.watchOnly address label)

def attachingDevice (workplace : Workplace) : Except WalletError Device :=
  match workplace.config.device with
  | some device => .ok device
  | none => .error (.validation .missingDevice)

def attachKey (wallet : Wallet) (workplace : Workplace) (store : Store) (wif : String)
    (label : Option String) (second : Option String) : Reply ImportedAddress :=
  let imported := do
    let device ← attachingDevice workplace
    (← wallet.payload).importKey workplace.services wif label device second
  match imported with
  | .error cause => wallet.refuse store cause
  | .ok (payload, entry) =>
    let reply := wallet.mutate workplace store true fun _ => .ok payload
    { reply with result := reply.result.map fun _ => entry }

def importKey (wallet : Wallet) (workplace : Workplace) (store : Store) (wif label : String)
    (second : Option String) : Reply ImportedAddress :=
  wallet.attachKey workplace store wif (if label.isEmpty then none else some label) second

def setKey (wallet : Wallet) (workplace : Workplace) (store : Store) (wif : String)
    (second : Option String) : Reply ImportedAddress :=
  wallet.attachKey workplace store wif none second

def archiveImported (wallet : Wallet) (workplace : Workplace) (store : Store) (address : String)
    (archived : Bool) : Reply Committed :=
  wallet.mutate workplace store true fun payload => payload.archiveImported address archived

def labelImported (wallet : Wallet) (workplace : Workplace) (store : Store)
    (address label : String) : Reply Committed :=
  wallet.mutate workplace store false fun payload => payload.labelImported address label

def revealImported (wallet : Wallet) (workplace : Workplace) (address : String)
    (second : Option String) : Except WalletError String := do
  (← wallet.payload).revealImported workplace.services.cipher address second

def setNote (wallet : Wallet) (workplace : Workplace) (store : Store) (transaction note : String) :
    Reply Committed :=
  wallet.mutate workplace store false fun payload => payload.setNote transaction note

def note? (wallet : Wallet) (transaction : String) : Option String := do
  (← wallet.payload?).notes.find? transaction

end Coffer.Wallet
