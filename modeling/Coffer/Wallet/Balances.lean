import Coffer.Wallet.Basic
/-!
# Balances of wallets

Everything in use is asked about in one batch; totals are read off the cache.
-/

namespace Coffer.Wallet

/-- The extended public keys of the accounts in use and the imported addresses in use. -/
def balanceKeys (payload : Payload) : List String :=
  (payload.activeAccounts.flatMap fun entry => entry.1.xpubs.map Prod.snd) ++
    payload.activeImported.map ImportedAddress.address

/-- Asks for the balances of everything in use and tells the total. -/
def refreshBalances (wallet : Wallet) (workplace : Workplace) :
    Except WalletError UInt64 × Wallet × List Request :=
  match wallet.payload with
  | .error cause => (.error cause, wallet, [])
  | .ok payload =>
    let (result, balances, requests) :=
      wallet.balances.fetch workplace.indexer (balanceKeys payload)
    (result.map fun _ => balances.walletTotal payload, { wallet with balances }, requests)

def accountBalance (wallet : Wallet) (index : UInt64) : Except WalletError Balance := do
  let payload ← wallet.payload
  return wallet.balances.accountTotal (← liftError .validation (payload.account index))

def total (wallet : Wallet) : UInt64 := (wallet.payload?.map wallet.balances.walletTotal).getD 0

def importedTotal (wallet : Wallet) : UInt64 :=
  (wallet.payload?.map wallet.balances.importedTotal).getD 0

/-- Adjusts the balance of a key by what the wallet itself spent or received with it. -/
def adjust (wallet : Wallet) (key : String) (amount : Int) : Wallet :=
  { wallet with balances := wallet.balances.adjust key amount }

end Coffer.Wallet
