import Remme.RpcApi.Submissions
/-!
# Parameters of a request

A request carries a JSON object, and `validate_params` hands its members to a
form as keyword arguments.  A keyword that is neither a field of the form nor
one that the method names is a wrong key, and the request ends there.  Behind
the form the methods take what the members hold, whatever it is; the router
finds out.
-/

namespace Remme.RpcApi

open Remme.Lib Remme.Protos Remme.Shared Remme.Shared.Forms Remme.Tp Remme.Clients

/-! ## Values -/

inductive Json where
  | null
  | boolean (b : Bool)
  | integer (n : ℤ)
  | float (x : JsonFloat)
  | text (s : Str)
  | array (items : List Json)
  | object (fields : List (Str × Json))

namespace Json

/-- `not value` -/
def isFalsy : Json → Bool
  | null => true
  | boolean b => !b
  | integer n => n = 0
  | float (.finite q) => q = 0
  | float _ => false
  | text s => s.isEmpty
  | array items => items.isEmpty
  | object fields => fields.isEmpty

/-- The item of a `join`. -/
def asText : Json → Except RequestError Str
  | text s => .ok s
  | _ => .error (.raised .typeError)

/-- A text or `None`, where any other value raises. -/
def asOptionalText (err : PyError) : Json → Except RequestError (Option Str)
  | null => .ok none
  | text s => .ok (some s)
  | _ => .error (.raised err)

/-- What `','.join(ids) if ids else None` joins: a text is its characters, a dictionary its keys. -/
def idTexts (ids : Json) : Except RequestError (List Str) :=
  if ids.isFalsy then .ok []
  else
    match ids with
    | text s => .ok (s.map fun c => [c])
    | array items => items.mapM asText
    | object fields => .ok (fields.map (·.1))
    | _ => .error (.raised .typeError)

/-- What `int(limit)` takes; a list or a dictionary is a `TypeError`. -/
def limitParam : Json → Except RequestError (Option LimitParam)
  | null => .ok none
  | boolean b => .ok (some (.boolean b))
  | integer n => .ok (some (.number n))
  | float x => .ok (some (.float x))
  | text s => .ok (some (.text s))
  | _ => .error (.raised .typeError)

/-- `balance < amount` -/
def exceeds (balance : ℕ) : Json → Except PyError Bool
  | boolean b => .ok (balance < if b then 1 else 0)
  | integer n => .ok ((balance : ℤ) < n)
  | float (.finite q) => .ok ((balance : ℚ) < q)
  | float (.infinity isNegative) => .ok !isNegative
  | float .nan => .ok false
  | _ => .error .typeError

/-- `transfer.value = amount` -/
def toUint64 : Json → Except PyError UInt64
  | boolean b => .ok (if b then 1 else 0)
  | integer n => uint64Field "value" n
  | _ => .error .typeError

end Json

/-! ## Forms without fields -/

/-- The names that `ProtoForm.__init__` has for its own arguments. -/
def ownArguments : List Str :=
  ["formdata", "obj", "prefix", "data", "meta"].map (·.toList)

/-- What a form leaves to the libraries: the outcome of its constructor for these keyword
arguments, and how a set of texts is listed. -/
structure FormLibrary where
  construct : Dict Str Json → Except PyError Unit
  listSet : List Str → List Str
  isPrintable : Char → Bool
  listSet_perm : ∀ keys, (listSet keys).Perm keys

/-- `wrong_fields` of a `ProtoForm` -/
def wrongFields (ignoreFields : List Str) (params : Dict Str Json) : List Str :=
  (params.entries.map (·.1)).filter fun k => k ∉ ownArguments ∧ k ∉ ignoreFields

variable (forms : FormLibrary)

/-- `validate_params(ProtoForm, ignore_fields)` -/
def validateProtoForm (ignoreFields : List Str) (params : Dict Str Json) :
    Except RequestError Unit := do
  (forms.construct params).mapError .raised
  match wrongFields ignoreFields params with
  | [] => .ok ()
  | wrong =>
      let keys := (forms.listSet wrong).map PyVal.text
      .error (.invalidParams
        ("Wrong params keys: ".toList ++ PyVal.repr forms.isPrintable (.array keys)))

/-- `request.params.get(key)` -/
def getParam (params : Dict Str Json) (key : String) : Json :=
  (params.get? key.toList).getD .null

/-! ## The lists -/

structure ListArguments where
  ids : List Str
  start : Option Str
  limit : Option LimitParam
  head : Option Str
  reverse : Option Str

/-- The arguments of a list.  The router's checks stand between the types, so that the first
exception is the router's first. -/
def listArguments (params : Dict Str Json) : Except RequestError ListArguments := do
  let limit ← (getParam params "limit").limitParam
  let _ ← getPagingControls none limit
  let ids ← (getParam params "ids").idTexts
  let head ← (getParam params "head").asOptionalText .typeError
  let _ ← getHeadId head
  let _ ← getFilterIds (idQuery ids)
  let reverse ← (getParam params "reverse").asOptionalText .attributeError
  let start ← (getParam params "start").asOptionalText .typeError
  pure ⟨ids, start, limit, head, reverse⟩

section Lists

variable {τ : Type} (sdk : Sdk τ) (params : Dict Str Json)

/-- The keys of a state's list are let through, and `ids` is not. -/
def listBlocks : Query τ (PagedEnvelope ExpandedBlock) := do
  .ofExcept (validateProtoForm forms
    (["address", "start", "limit", "head", "reverse"].map (·.toList)) params)
  let a ← .ofExcept (listArguments params)
  Router.listBlocks sdk a.ids a.start a.limit a.head a.reverse

def listBatches : Query τ (PagedEnvelope ExpandedBatch) := do
  .ofExcept (validateProtoForm forms
    (["ids", "start", "limit", "head", "reverse"].map (·.toList)) params)
  let a ← .ofExcept (listArguments params)
  Router.listBatches sdk a.ids a.start a.limit a.head a.reverse

/-- No family has a name that is no text. -/
def listTransactions : Query τ (PagedEnvelope ExpandedTransaction) := do
  .ofExcept (validateProtoForm forms
    (["ids", "start", "limit", "head", "reverse", "family_name"].map (·.toList)) params)
  let a ← .ofExcept (listArguments params)
  match getParam params "family_name" with
  | .null => Router.listTransactions sdk a.ids a.start a.limit a.head a.reverse none
  | .text familyName =>
      Router.listTransactions sdk a.ids a.start a.limit a.head a.reverse (some familyName)
  | _ => do
      let page ← Router.listTransactions sdk a.ids a.start a.limit a.head a.reverse none
      pure { page with data := [] }

end Lists

/-! ## Sending tokens -/

section Tokens

variable {B : Type} (π : Platform B) (numbers : MethodNumbers π.pb)
  (sdk : Sdk (ClientTransaction B)) (ofBytes : Bytes → B) (signer : Signer B)
  (batchSigner : BatchSigner)

/-- `request.params[key]`, with the `KeyError` caught. -/
def requireParam (params : Dict Str Json) (key : String) : Except RequestError Json :=
  match params.get? key.toList with
  | some value => .ok value
  | none => .error (.invalidParams ("Missed " ++ key).toList)

/-- `make_address_from_data(public_key_to)` -/
def addressOfParam : Json → Except PyError Str
  | .text publicKeyTo => makeAddressFromData π .account (Text.encodeUtf8 publicKeyTo)
  | _ => .error .typeError

def sendTokens (params : Dict Str Json) : Query (ClientTransaction B) Str := do
  .ofExcept (validateProtoForm forms [] params)
  let amount ← .ofExcept (requireParam params "amount")
  let publicKeyTo ← .ofExcept (requireParam params "public_key_to")
  let signerAddress ← .ofExcept ((getUserAddress π signer).mapError .raised)
  let signerAccount ← AccountClient.getAccount π sdk ofBytes signerAddress
  if amount.isFalsy then
    .ofExcept (.error (serverDefinedError "Could not transfer with zero amount").toRequestError)
  else do
    let isShort ← .ofExcept ((amount.exceeds signerAccount.balance.toNat).mapError .raised)
    if isShort then
      .ofExcept (.error
        (serverDefinedError "Not enough transferable balance of sender").toRequestError)
    else do
      let addressTo ← .ofExcept ((addressOfParam π publicKeyTo).mapError .raised)
      let value ← .ofExcept (amount.toUint64.mapError .raised)
      let result ← BasicClient.sendTransaction sdk batchSigner
        (AccountClient.transfer π numbers signer addressTo value)
      pure result.data

end Tokens

end Remme.RpcApi
