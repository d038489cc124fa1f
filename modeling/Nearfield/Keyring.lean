/-
# The keyring

The keyring holds the current pair of keys and replaces it only as a whole. An
issued pair is decoded before the keyring is touched, so a bad one changes
nothing; what was read from the keyring earlier is a value and keeps its keys.

Key definitions: `Keyring`, `Keyring.Update`, `Keyring.apply`.
-/
import Nearfield.Key

namespace Nearfield

structure Keyring where
  current : KeyPair
  deriving DecidableEq, Repr

namespace Keyring

/-- A keyring with no keys. -/
def new : Keyring := ⟨.empty⟩

/-- The ways to change the keys. -/
inductive Update where
  | setKeys (keys : KeyPair)
  | setIssued (issued : IssuedKeys)
  | clear
  deriving DecidableEq, Repr

/-- The pair that an update installs. -/
def Update.keys : Update → Except KeyError KeyPair
  | .setKeys keys => .ok keys
  | .setIssued issued => KeyPair.ofIssued issued
  | .clear => .ok .empty

/-- Performs an update; on an error the keyring stays as it is. -/
def apply (update : Update) (ring : Keyring) : Except KeyError Unit × Keyring :=
  match update.keys with
  | .ok keys => (.ok (), { ring with current := keys })
  | .error e => (.error e, ring)

end Keyring
end Nearfield
