import Coffer.Wallet.Addresses
import Coffer.Wallet.Balances
import Coffer.Wallet.Changes
import Coffer.Wallet.Recovery
/-!
# Commands and questions

Everything that can be asked of a wallet, as values. A command may change the wallet, the store or
both and may put questions to the indexer; a question changes nothing.
-/

namespace Coffer

namespace Wallet

inductive Command where
  | create (label email password : String)
  | recover (phrase label email password : String)
  | load (guid sharedKey password : String)
  | loadText (text password : String)
  | wipe
  | save
  | announce
  | updatePassword (password : String)
  | upgradeToAccounts (label : String) (second : Option String)
  | upgradeToSegwit (second : Option String)
  | enableSecond (second : String)
  | disableSecond (second : String)
  | addAccount (label : String) (second : Option String)
  | labelAccount (index : UInt64) (label : String)
  | archiveAccount (index : UInt64) (archived : Bool)
  | chooseDefault (index : UInt64)
  | markVerified
  | watch (address label : String)
  | importKey (wif label : String) (second : Option String)
  | setKey (wif : String) (second : Option String)
  | archiveImported (address : String) (archived : Bool)
  | labelImported (address label : String)
  | setNote (transaction note : String)
  | reserve (account : UInt64) (index : UInt32) (label : String)
  | nextReceiveAndReserve (account : UInt64) (label : String)
  | advance (account : UInt64) (scheme : Scheme) (chain : Chain) (observed : UInt32)
  | increment (account : UInt64) (chain : Chain)
  | refreshIndexes
  | refreshBalances
  | adjust (key : String) (amount : Int)

/-- What is asked of a wallet without changing it. -/
inductive Question where
  | current
  | upgrades
  | checkSecond (second : Option String)
  | phrase (second : Option String)
  | isVerified
  | importedKey (address : String) (second : Option String)
  | note (transaction : String)
  | nextReceivePosition (account : UInt64)
  | nextReceiveAddress (account : UInt64)
  | nextChangeAddress (account : UInt64)
  | receiveAddressAt (account : UInt64) (steps : UInt32)
  | nextReceiveIndex (account : UInt64) (scheme : Scheme)
  | nextChangeIndex (account : UInt64) (scheme : Scheme)
  | owner (address : String)
  | labelOf (address : String)
  | signingKey (account : UInt64) (scheme : Scheme) (chain : Chain) (index : UInt32)
      (second : Option String)
  | accountBalance (account : UInt64)
  | totals
  | balance (key : String)
  | indexes (xpub : String) (scheme : Scheme)

inductive Answer where
  | nothing
  | committed (committed : Committed)
  | entry (entry : ImportedAddress)
  | flag (value : Bool)
  | flags (first second : Bool)
  | text (text : String)
  | optional (text : Option String)
  | owner (xpub : Option String)
  | index (index : UInt32)
  | amount (amount : UInt64)
  | amounts (first second : UInt64)
  | balance (balance : Balance)
  | indexes (state : IndexState)

end Wallet

def Reply.answer {α : Type} (answer : α → Wallet.Answer) (reply : Reply α) : Reply Wallet.Answer :=
  ⟨reply.result.map answer, reply.wallet, reply.store, reply.requests⟩

namespace Wallet

def offline {α : Type} (store : Store) (answer : α → Answer) (result : Except WalletError α)
    (wallet : Wallet) (requests : List Request) : Reply Answer :=
  ⟨result.map answer, wallet, store, requests⟩

def perform (wallet : Wallet) (workplace : Workplace) (store : Store) (draw : Draw) :
    Command → Reply Answer
  | .create label email password =>
    (wallet.create workplace store draw label email password).answer .committed
  | .recover phrase label email password =>
    (wallet.recover workplace store draw phrase label email password).answer .committed
  | .load guid sharedKey password =>
    (wallet.load workplace store guid sharedKey password).answer .committed
  | .loadText text password => (wallet.loadText workplace store text password).answer .committed
  | .wipe => ⟨.ok .nothing, initial, store, []⟩
  | .save => (wallet.save workplace store).answer .committed
  | .announce => (wallet.announce workplace store).answer .committed
  | .updatePassword password => (wallet.updatePassword workplace store password).answer .committed
  | .upgradeToAccounts label second =>
    (wallet.upgradeToAccounts workplace store draw.entropy label second).answer .committed
  | .upgradeToSegwit second => (wallet.upgradeToSegwit workplace store second).answer .committed
  | .enableSecond second => (wallet.enableSecond workplace store second).answer .committed
  | .disableSecond second => (wallet.disableSecond workplace store second).answer .committed
  | .addAccount label second => (wallet.addAccount workplace store label second).answer .committed
  | .labelAccount index label => (wallet.labelAccount workplace store index label).answer .committed
  | .archiveAccount index archived =>
    (wallet.archiveAccount workplace store index archived).answer .committed
  | .chooseDefault index => (wallet.chooseDefault workplace store index).answer .committed
  | .markVerified => (wallet.markVerified workplace store).answer .committed
  | .watch address label => (wallet.watch workplace store address label).answer .committed
  | .importKey wif label second => (wallet.importKey workplace store wif label second).answer .entry
  | .setKey wif second => (wallet.setKey workplace store wif second).answer .entry
  | .archiveImported address archived =>
    (wallet.archiveImported workplace store address archived).answer .committed
  | .labelImported address label =>
    (wallet.labelImported workplace store address label).answer .committed
  | .setNote transaction note => (wallet.setNote workplace store transaction note).answer .committed
  | .reserve account index label =>
    (wallet.reserve workplace store account index label).answer .committed
  | .nextReceiveAndReserve account label =>
    (wallet.nextReceiveAndReserve workplace store account label).answer .text
  | .advance account scheme chain observed =>
    let (result, wallet) := wallet.advance account scheme chain observed
    offline store .index result wallet []
  | .increment account chain =>
    let (result, wallet) := wallet.increment account chain
    offline store .index result wallet []
  | .refreshIndexes =>
    let (result, wallet, requests) := wallet.refreshIndexes workplace
    offline store (fun _ => .nothing) result wallet requests
  | .refreshBalances =>
    let (result, wallet, requests) := wallet.refreshBalances workplace
    offline store .amount result wallet requests
  | .adjust key amount =>
    let wallet := wallet.adjust key amount
    ⟨.ok (.balance (wallet.balances.balance key)), wallet, store, []⟩

def ask (wallet : Wallet) (workplace : Workplace) : Question → Except WalletError Answer
  | .current => wallet.synchronizer.current.map .committed
  | .upgrades => wallet.payload.map fun payload => .flags payload.needsAccounts payload.needsSegwit
  | .checkSecond second => (wallet.checkSecond workplace second).map fun _ => .nothing
  | .phrase second => (wallet.revealPhrase workplace second).map .text
  | .isVerified => .ok (.flag wallet.isVerified)
  | .importedKey address second => (wallet.revealImported workplace address second).map .text
  | .note transaction => .ok (.optional (wallet.note? transaction))
  | .nextReceivePosition account => (wallet.nextReceivePosition account).map .index
  | .nextReceiveAddress account => (wallet.nextReceiveAddress workplace account).map .text
  | .nextChangeAddress account => (wallet.nextChangeAddress workplace account).map .text
  | .receiveAddressAt account steps =>
    (wallet.receiveAddressAt? workplace account steps).map .optional
  | .nextReceiveIndex account scheme => (wallet.nextReceiveIndex account scheme).map .index
  | .nextChangeIndex account scheme => (wallet.nextChangeIndex account scheme).map .index
  | .owner address => (wallet.xpubOf? workplace address).map .owner
  | .labelOf address => (wallet.labelOf workplace address).map .text
  | .signingKey account scheme chain index second =>
    (wallet.signingKey workplace account scheme chain index second).map .text
  | .accountBalance account => (wallet.accountBalance account).map .balance
  | .totals => .ok (.amounts wallet.total wallet.importedTotal)
  | .balance key => .ok (.balance (wallet.balances.balance key))
  | .indexes xpub scheme => .ok (.indexes (wallet.synchronizer.allocator.state xpub scheme))

end Wallet

end Coffer
