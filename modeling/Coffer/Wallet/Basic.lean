import Coffer.BalanceCache
import Coffer.Config
import Coffer.Synchronizer
/-!
# Wallets

A wallet on one device: its synchronizer and the balances that it has heard of. Every change is
built from the committed payload and saved before anything is different locally; questions are
answered from the committed payload alone.
-/

namespace Coffer

structure Wallet where
  synchronizer : Synchronizer
  balances : BalanceCache
  deriving DecidableEq

/-- The settings and collaborators of a wallet. -/
structure Workplace where
  config : Config
  services : Services
  indexer : Indexer

/-- What a new wallet takes from chance. -/
structure Draw where
  guid : String
  sharedKey : String
  entropy : Bytes

/-- What is left after a request of a wallet: its result, the wallet, the store, and the questions
that were put to the indexer. -/
structure Reply (α : Type) where
  result : Except WalletError α
  wallet : Wallet
  store : Store
  requests : List Request

namespace Workplace

def surroundings (workplace : Workplace) : Surroundings :=
  ⟨workplace.services, workplace.config.device, workplace.config.lookahead⟩

end Workplace

namespace Wallet

/-- The wallet that has loaded nothing, or has forgotten everything. -/
def initial : Wallet := ⟨.initial, .empty⟩

def payload (wallet : Wallet) : Except WalletError Payload :=
  wallet.synchronizer.current.map Committed.payload

def payload? (wallet : Wallet) : Option Payload :=
  wallet.synchronizer.committed.map Committed.payload

/-- Takes over what is left after a request of the synchronizer. -/
def settle {α : Type} (wallet : Wallet) (attempt : Attempt α) : Reply α :=
  ⟨attempt.result, { wallet with synchronizer := attempt.synchronizer }, attempt.store, []⟩

def refuse {α : Type} (wallet : Wallet) (store : Store) (cause : WalletError) : Reply α :=
  ⟨.error cause, wallet, store, []⟩

def create (wallet : Wallet) (workplace : Workplace) (store : Store) (draw : Draw)
    (label email password : String) : Reply Committed :=
  let created := Payload.hierarchical workplace.services.keys draw.guid draw.sharedKey
    label draw.entropy workplace.config.iterations
  match created with
  | .error cause => wallet.refuse store cause
  | .ok payload =>
    wallet.settle (wallet.synchronizer.saveNew workplace.surroundings store payload password email)

def settleLoad (wallet : Wallet) (attempt : Attempt Committed) : Reply Committed :=
  match attempt.result with
  | .ok _ => { wallet with balances := .empty }.settle attempt
  | .error _ => wallet.settle attempt

def load (wallet : Wallet) (workplace : Workplace) (store : Store)
    (guid sharedKey password : String) : Reply Committed :=
  wallet.settleLoad
    (wallet.synchronizer.load store workplace.services.cipher guid sharedKey password)

def loadText (wallet : Wallet) (workplace : Workplace) (store : Store) (text password : String) :
    Reply Committed :=
  wallet.settleLoad (wallet.synchronizer.loadText store workplace.services.cipher text password)

def mutate (wallet : Wallet) (workplace : Workplace) (store : Store) (announce : Bool)
    (build : Payload → Except WalletError Payload) : Reply Committed :=
  wallet.settle
    (wallet.synchronizer.mutate workplace.surroundings store announce fun payload _ =>
      build payload)

def save (wallet : Wallet) (workplace : Workplace) (store : Store) : Reply Committed :=
  wallet.mutate workplace store false .ok

/-- Saves the committed payload as it is and announces its addresses. -/
def announce (wallet : Wallet) (workplace : Workplace) (store : Store) : Reply Committed :=
  wallet.mutate workplace store true .ok

def updatePassword (wallet : Wallet) (workplace : Workplace) (store : Store) (password : String) :
    Reply Committed :=
  if password.isEmpty then
    wallet.refuse store (.validation (.invalidInput "password must not be empty"))
  else wallet.settle (wallet.synchronizer.rewrap workplace.surroundings store password)

end Wallet

end Coffer
