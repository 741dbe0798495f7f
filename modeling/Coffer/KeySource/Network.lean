/-!
# Networks

The network that keys and addresses are written for. Extended keys and signing keys only tell the
main network from the others.
-/

namespace Coffer

inductive Network where
  | bitcoin
  | testnet
  | signet
  | regtest
  deriving DecidableEq, Repr

namespace Network

def name : Network → String
  | bitcoin => "Bitcoin"
  | testnet => "Testnet"
  | signet => "Signet"
  | regtest => "Regtest"

def isMain : Network → Bool
  | bitcoin => true
  | _ => false

def segwitWord : Network → String
  | bitcoin => "bc"
  | testnet => "tb"
  | signet => "tb"
  | regtest => "bcrt"

end Network

end Coffer
