import Remme.Clients.BlockInfo
import Remme.Shared.Utils
/-!
# Pages of blocks

`get_blocks_info` reads the block-info records of a window of indices, newest
last, and returns them newest first.  The numbers that callers see are one more
than the indices.  A start or a limit of zero stands for a default, which the
record of the configuration gives.
-/

namespace Remme.Clients.BlockInfo

open Remme.Lib Remme.Protos Remme.Shared

inductive ClientError where
  | keyNotFound
  | decodeError
  deriving DecidableEq

/-- What `interpret_block_info` returns. -/
structure BlockRecord where
  blockNumber : ℕ
  timestamp : ℕ
  previousHeaderSignature : Str
  signerPublicKey : Str
  headerSignature : Str
  deriving DecidableEq

def interpretBlockInfo (blockInfo : BlockInfo) : BlockRecord where
  blockNumber := blockInfo.blockNum.toNat + 1
  timestamp := blockInfo.timestamp.toNat
  previousHeaderSignature := blockInfo.previousBlockId
  signerPublicKey := blockInfo.signerPublicKey
  headerSignature := blockInfo.headerSignature

/-- `hex(i)[2:]`, which leaves the `x` of a negative number. -/
def hexOfInt : ℤ → Str
  | .ofNat n => Text.hex n
  | .negSucc n => 'x' :: Text.hex (n + 1)

/-- `create_block_address` of any integer. -/
def createBlockAddressOfInt (i : ℤ) : Str := blockInfoNamespace ++ Text.zfill 62 (hexOfInt i)

/-- `range(start, stop)` -/
def pyRange (start stop : ℤ) : List ℤ :=
  (List.range (stop - start).toNat).map fun k : ℕ => start + (k : ℤ)

variable {B : Type} (π : Platform B) (state : Str → Option B)

/-! ## Reading a record -/

/-- `get_value`; the validator answers `NO_RESOURCE` where an address holds nothing. -/
def getValue (address : Str) : Except ClientError B :=
  match state address with
  | some data => .ok data
  | none => .error .keyNotFound

def parseMessage {α : Type} (pbClass : Codec B α) (data : B) : Except ClientError α :=
  match pbClass.parseFromString data with
  | some message => .ok message
  | none => .error .decodeError

def getBlockInfo (blockNum : ℤ) : Except ClientError BlockInfo := do
  let biState ← getValue state (createBlockAddressOfInt blockNum)
  parseMessage π.pb.blockInfo biState

def getBlockInfoConfig : Except ClientError BlockInfoConfig := do
  let rawBic ← getValue state configAddress
  parseMessage π.pb.blockInfoConfig rawBic

/-! ## A page -/

/-- Start and limit with their defaults; `none` where the configuration cannot be read. -/
def withDefaults (start limit : ℤ) : Option (ℤ × ℤ) :=
  if start ≠ 0 ∧ limit ≠ 0 then some (start, limit)
  else
    match getBlockInfoConfig π state with
    | .error _ => none
    | .ok config =>
        let start := if start = 0 then (config.latestBlock.toNat : ℤ) + 1 else start
        let limit := if limit = 0 then start - config.oldestBlock.toNat + 1 else limit
        some (start, limit)

/-- The indices that `get_blocks_info` asks for. -/
def blockIndices (start limit : ℤ) : List ℤ :=
  match withDefaults π state start limit with
  | none => []
  | some (start, limit) =>
      let limit := if limit - start > 0 then start else limit
      pyRange (start - limit) start

/-- The loop of `get_blocks_info`. -/
def collectBlocks : List ℤ → Except ClientError (List BlockRecord)
  | [] => .ok []
  | i :: rest =>
      match getBlockInfo π state i with
      | .error .keyNotFound => collectBlocks rest
      | .error err => .error err
      | .ok bi => do
          let blocks ← collectBlocks rest
          pure (interpretBlockInfo bi :: blocks)

def getBlocksInfo (start limit : ℤ) : Except ClientError (List BlockRecord) := do
  let blocks ← collectBlocks π state (blockIndices π state start limit)
  pure blocks.reverse

/-! ## A caller that pages back -/

/-- The next page starts below the last block of this one, until that is zero or a page is
empty. -/
def visitBlocks (limit : ℤ) : ℕ → ℤ → Except ClientError (List BlockRecord)
  | 0, _ => .ok []
  | fuel + 1, start => do
      let blocks ← getBlocksInfo π state start limit
      match blocks.getLast? with
      | none => pure []
      | some smallest =>
          let next : ℤ := smallest.blockNumber - 1
          if next = 0 then pure blocks
          else do
            let rest ← visitBlocks limit fuel next
            pure (blocks ++ rest)

end Remme.Clients.BlockInfo
