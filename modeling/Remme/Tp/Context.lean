import Remme.Shared.Utils
/-!
# Reading the transaction context

A processor sees the state through `CacheContextService`: it asks for an
address and a message class and gets the parsed message, or `None` when the
address holds no data.  Bytes that do not parse raise protobuf's `DecodeError`,
which the service's last `except` clause turns into `None` as well.
-/

namespace Remme.Tp

open Remme.Lib Remme.Protos Remme.Shared

/-- A processor reads the state by address and returns or raises. -/
abbrev Processor (B : Type) := StoreM Str B PyError

variable {B α : Type}

/-- `get_data`; `get_multiple_data` is one `getData` after the other. -/
def getData (pbClass : Codec B α) (address : Str) : Processor B (Option α) := do
  let data ← StoreM.get address
  pure (data.bind pbClass.parseFromString)

@[simp] theorem run_getData (ctx : Str → Option B) (pbClass : Codec B α) (address : Str) :
    (getData pbClass address).run ctx = .ok ((ctx address).bind pbClass.parseFromString) := rfl

end Remme.Tp
