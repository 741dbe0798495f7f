import Coffer.Imported
import Coffer.Text.Quoted
/-!
# Configuration

The settings of a wallet, with a value for each that holds where nothing else is said.
-/

namespace Coffer

structure Config where
  iterations : UInt32
  /-- How many receive addresses of an account are announced and searched. -/
  lookahead : UInt32
  recoveryGap : UInt32
  /-- The device; without one nothing is written. -/
  device : Option Device
  logLevel : String
  logFormat : String
  deriving DecidableEq, Repr

namespace Config

def standard : Config := ⟨5000, 20, 5, none, "info", "text"⟩

/-- What settings have to be; otherwise the complaint. -/
def check (config : Config) : Except String Unit :=
  if config.iterations = 0 then .error "pbkdf2_iterations must be positive"
  else if config.logFormat = "text" ∨ config.logFormat = "json" then .ok ()
  else .error ("unknown log format " ++ Text.quoted config.logFormat)

end Config

end Coffer
