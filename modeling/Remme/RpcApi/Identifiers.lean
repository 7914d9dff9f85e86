import Remme.Tp.Basic
import Remme.Shared.Forms
/-!
# Recognisers of addresses and ids

Addresses, swap ids and header signatures come in with every request, and each
entry point recognises them in its own way: `is_address` parses an integer, the
forms and the event handlers match a pattern at the start of the text, and
`validate_id` matches the whole text.
-/

namespace Remme.RpcApi

open Remme.Lib Remme.Shared Remme.Shared.Forms

/-! ## The patterns of the event handlers -/

/-- `BATCH_ID_REGEXP.match` -/
def batchIdRegexp (s : Str) : Bool := matchHex 128 s

/-- `BLOCK_ID_REGEXP` is the same pattern. -/
def blockIdRegexp (s : Str) : Bool := batchIdRegexp s

def addressRegexp (s : Str) : Bool := matchHex 70 s

def swapIdRegexp (s : Str) : Bool := matchHex 64 s

/-! ## Request parameters -/

/-- A field of a form that `validate_params` builds: the parameter is its data as it is. -/
def acceptsParam (validators : List Validator) (s : Str) : Bool :=
  match runValidators validators (.text s) with
  | .ok messages => messages.isEmpty
  | .error _ => false

/-! ## Resource ids -/

/-- `errors.InvalidResourceId` -/
structure InvalidResourceId where
  message : Str

/-- `re.fullmatch('[0-9a-f]{n}', s)` -/
def fullmatchHex (n : ℕ) (s : Str) : Bool := s.length = n && s.all Text.isLowerHex

def validateId (resourceId : Str) : Except InvalidResourceId Unit :=
  if fullmatchHex 128 resourceId then .ok ()
  else .error ⟨"Invalid id \"".toList ++ resourceId ++ "\"".toList⟩

/-! ## The recognisers -/

inductive Recogniser where
  | isAddress | addressField | addressRegexp
  | swapIdField | swapIdRegexp
  | idField | batchIdRegexp | blockIdRegexp | validateId
  deriving DecidableEq

namespace Recogniser

def accepts : Recogniser → Str → Bool
  | isAddress, s => Tp.isAddress s
  | addressField, s => acceptsParam Forms.addressField s
  | addressRegexp, s => RpcApi.addressRegexp s
  | swapIdField, s => acceptsParam Forms.swapIdField s
  | swapIdRegexp, s => RpcApi.swapIdRegexp s
  | idField, s => acceptsParam Forms.idField s
  | batchIdRegexp, s => RpcApi.batchIdRegexp s
  | blockIdRegexp, s => RpcApi.blockIdRegexp s
  | validateId, s => (RpcApi.validateId s).isOk

/-- The length of what it is meant to accept. -/
def width : Recogniser → ℕ
  | isAddress | addressField | addressRegexp => 70
  | swapIdField | swapIdRegexp => 64
  | idField | batchIdRegexp | blockIdRegexp | validateId => 128

end Recogniser

end Remme.RpcApi
