import Remme.Tp.Context
/-!
# Settings

The reserved addresses, and the reader of the settings family: a setting's
address hashes at most four dot-separated parts of its key, and the entry is
then searched by its full key.
-/

namespace Remme.Settings

open Remme.Lib Remme.Protos Remme.Shared Remme.Tp

def zeroAddress : Str := List.replicate 70 '0'

def genesisAddress : Str := List.replicate 69 '0' ++ ['1']

def settingsSwapCommission : Str := "remme.settings.swap_comission".toList

def settingsNamespace : Str := "000000".toList

def maxKeyParts : ℕ := 4

def addressPartSize : ℕ := 16

variable {B : Type} (π : Platform B)

def toHash (value : Str) : Str := π.sha256 (Text.encodeUtf8 value)

def makeSettingsKey (key : Str) : Str :=
  let keyParts := Text.splitMax '.' (maxKeyParts - 1) key
  let addrParts := keyParts.map fun x => (toHash π x).take addressPartSize
  let emptyPart := (toHash π []).take addressPartSize
  let addrParts := addrParts ++ List.replicate (maxKeyParts - addrParts.length) emptyPart
  settingsNamespace ++ addrParts.flatten

def getSettingEntry (address : Str) : Processor B Setting := do
  let entry ← getData π.pb.setting address
  pure (entry.getD {})

def getSettingValue (key : Str) (defaultValue : Option Str) :
    Processor B (Option Str) := do
  let setting ← getSettingEntry π (makeSettingsKey π key)
  let entry := setting.entries.find? fun entry => key = entry.key
  pure ((entry.map (·.value)).or defaultValue)

end Remme.Settings
