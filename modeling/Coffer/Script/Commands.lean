import Coffer.Payload.Overview
import Coffer.Payload.Transition
import Coffer.Script.Values
import Coffer.Wallet.Command
/-!
# Commands in scripts

The changes of payloads, and the commands to wallets and questions to them, each under a word of its
own.
-/

namespace Coffer.Script

def standardDevice : Device := ⟨"os", "1"⟩

def transition? (json : Json) : Option Transition :=
  let label := json.textAt "label"
  let index := json.longAt "index"
  let address := json.textAt "address"
  match json.textAt "do" with
  | "new_account" => some (.addAccount label (second json))
  | "account_label" => some (.labelAccount index label)
  | "account_archived" => some (.archiveAccount index (json.flagAt "archived"))
  | "default_account" => some (.chooseDefault index)
  | "verified" => some (.markVerified (json.flagAt "verified"))
  | "address_label" => some (.labelAddress (json.longAt "account") (json.wordAt "index") label)
  | "watch" => some (.addImported (.watchOnly address label))
  | "import_entry" => (Json.documentAt? (ImportedAddress.ofJson? 0) json "entry").map .addImported
  | "import_key" =>
    some (.importKey (json.textAt "wif") (json.textAt? "label") ((device? json).getD standardDevice)
      (second json))
  | "imported_archived" => some (.archiveImported address (json.flagAt "archived"))
  | "imported_label" => some (.labelImported address label)
  | "note" => some (.setNote (json.textAt "hash") (json.textAt "note"))
  | "set_second" => some (.setSecond (json.textAt "second"))
  | "unset_second" => some (.unsetSecond (json.textAt "second"))
  | "upgrade_v3" => some (.upgradeToAccounts (bytesAt json "entropy") label (second json))
  | "upgrade_v4" => some (.upgradeToSegwit (second json))
  | _ => none

def command? (json : Json) : Option Wallet.Command :=
  let label := json.textAt "label"
  let email := json.textAt "email"
  let password := json.textAt "password"
  let index := json.longAt "index"
  let account := json.longAt "account"
  let address := json.textAt "address"
  match json.textAt "do" with
  | "create" => some (.create label email password)
  | "recover" => some (.recover (json.textAt "phrase") label email password)
  | "initialize" => some (.load (json.textAt "guid") (json.textAt "shared_key") password)
  | "load_json" => some (.loadText (objectAt json "json").documentText password)
  | "wipe" => some .wipe
  | "save" => some .save
  | "sync_pub_keys" => some .announce
  | "update_password" => some (.updatePassword password)
  | "upgrade_v3" => some (.upgradeToAccounts label (second json))
  | "upgrade_v4" => some (.upgradeToSegwit (second json))
  | "enable_second" => some (.enableSecond (json.textAt "second"))
  | "disable_second" => some (.disableSecond (json.textAt "second"))
  | "add_account" => some (.addAccount label (second json))
  | "account_label" => some (.labelAccount index label)
  | "account_archived" => some (.archiveAccount index (json.flagAt "archived"))
  | "default_account" => some (.chooseDefault index)
  | "verified" => some .markVerified
  | "watch" => some (.watch address label)
  | "import_key" => some (.importKey (json.textAt "wif") label (second json))
  | "set_key" => some (.setKey (json.textAt "wif") (second json))
  | "imported_archived" => some (.archiveImported address (json.flagAt "archived"))
  | "imported_label" => some (.labelImported address label)
  | "note" => some (.setNote (json.textAt "hash") (json.textAt "note"))
  | "reserve" => some (.reserve account (json.wordAt "index") label)
  | "next_and_reserve" => some (.nextReceiveAndReserve account label)
  | "advance" => some (.advance account (scheme json) (chain json) (json.wordAt "observed"))
  | "inc_receive" => some (.increment account .receive)
  | "inc_change" => some (.increment account .change)
  | "refresh_indexes" => some .refreshIndexes
  | "refresh_balances" => some .refreshBalances
  | "delta" => some (.adjust (json.textAt "key") (json.intAt "amount"))
  | _ => none

def question? (json : Json) : Option Wallet.Question :=
  let account := json.longAt "account"
  let address := json.textAt "address"
  match json.textAt "do" with
  | "current" => some .current
  | "upgrades" => some .upgrades
  | "check_second" => some (.checkSecond (second json))
  | "mnemonic" => some (.phrase (second json))
  | "backed_up" => some .isVerified
  | "imported_key" => some (.importedKey address (second json))
  | "get_note" => some (.note (json.textAt "hash"))
  | "position" => some (.nextReceivePosition account)
  | "next_receive" => some (.nextReceiveAddress account)
  | "next_change" => some (.nextChangeAddress account)
  | "receive_at" => some (.receiveAddressAt account (json.wordAt "position"))
  | "receive_index" => some (.nextReceiveIndex account (scheme json))
  | "change_index" => some (.nextChangeIndex account (scheme json))
  | "xpub_for" => some (.owner address)
  | "label_for" => some (.labelOf address)
  | "signing_key" =>
    some (.signingKey account (scheme json) (chain json) (json.wordAt "index") (second json))
  | "account_balance" => some (.accountBalance account)
  | "wallet_balance" => some .totals
  | "balance" => some (.balance (json.textAt "key"))
  | "alloc" => some (.indexes (json.textAt "xpub") (scheme json))
  | _ => none

/-- What a wallet answers; a payload that is concealed is shown without its secrets. -/
def answerView (concealed : Bool) : Wallet.Answer → Json
  | .nothing => .null
  | .committed committed =>
    if concealed then committed.payload.overview else committed.payload.toJson
  | .entry entry => entry.overview
  | .flag value => .bool value
  | .flags first second => .array [.bool first, .bool second]
  | .text text => .ofText text
  | .optional text => .orNull .ofText text
  | .owner xpub => .array [.orNull .ofText xpub, .bool xpub.isSome]
  | .index index => wordView index
  | .amount amount => longView amount
  | .amounts first second => .array [longView first, longView second]
  | .balance value => balanceView value
  | .indexes state => indexesView state

end Coffer.Script
