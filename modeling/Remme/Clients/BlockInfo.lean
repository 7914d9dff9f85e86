import Remme.Lib.Text
/-!
# Block-info addresses
-/

namespace Remme.Clients.BlockInfo

open Remme.Lib

/-- `NAMESPACE` -/
def blockInfoFamilyNamespace : Str := "00b10c".toList

def configAddress : Str := blockInfoFamilyNamespace ++ "01".toList ++ List.replicate 62 '0'

def blockInfoNamespace : Str := blockInfoFamilyNamespace ++ "00".toList

def createBlockAddress (blockNum : ℕ) : Str :=
  blockInfoNamespace ++ Text.zfill 62 (Text.hex blockNum)

end Remme.Clients.BlockInfo
