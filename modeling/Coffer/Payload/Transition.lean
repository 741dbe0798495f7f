import Coffer.Payload.Imports
import Coffer.Payload.Upgrade
/-!
# Transitions

The changes that a wallet goes through, as values. Each one either makes a whole new payload or
fails and leaves the one that it was tried on.
-/

namespace Coffer

inductive Transition where
  | addAccount (label : String) (second : Option String)
  | labelAccount (index : UInt64) (label : String)
  | archiveAccount (index : UInt64) (archived : Bool)
  | chooseDefault (index : UInt64)
  | markVerified (verified : Bool)
  | labelAddress (account : UInt64) (index : UInt32) (label : String)
  | addImported (entry : ImportedAddress)
  | importKey (wif : String) (label : Option String) (device : Device) (second : Option String)
  | archiveImported (address : String) (archived : Bool)
  | labelImported (address label : String)
  | setNote (transaction note : String)
  | setSecond (second : String)
  | unsetSecond (second : String)
  | upgradeToAccounts (entropy : Bytes) (label : String) (second : Option String)
  | upgradeToSegwit (second : Option String)

def Transition.apply (services : Services) (payload : Payload) :
    Transition → Except WalletError Payload
  | addAccount label second => payload.addAccount services label second
  | labelAccount index label => payload.labelAccount index label
  | archiveAccount index archived => payload.archiveAccount index archived
  | chooseDefault index => payload.chooseDefault index
  | markVerified verified => payload.markVerified verified
  | labelAddress account index label => payload.labelAddress account index label
  | addImported entry => payload.addImported entry
  | importKey wif label device second =>
    (payload.importKey services wif label device second).map Prod.fst
  | archiveImported address archived => payload.archiveImported address archived
  | labelImported address label => payload.labelImported address label
  | setNote transaction note => payload.setNote transaction note
  | setSecond second => payload.setSecond services.cipher services.seed second
  | unsetSecond second => payload.unsetSecond services.cipher second
  | upgradeToAccounts entropy label second =>
    payload.upgradeToAccounts services entropy label second
  | upgradeToSegwit second => payload.upgradeToSegwit services second

end Coffer
