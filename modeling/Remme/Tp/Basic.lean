import Remme.Tp.Context
import Mathlib.Data.List.Infix
/-!
# Families and addresses

The shared part of the three handlers: a family's prefix is the start of the
hash of its name, and an address is the prefix followed by 64 digits of a hash.
-/

namespace Remme.Tp

open Remme.Lib Remme.Protos Remme.Shared

inductive Family where
  | account | atomicSwap | pubKey
  deriving DecidableEq

def Family.familyName : Family → Str
  | account => "account".toList
  | atomicSwap => "AtomicSwap".toList
  | pubKey => "pub_key".toList

def isAddress (address : Str) : Bool :=
  address.length = 70 && (Text.int 16 address).isSome

variable {B : Type} (π : Platform B)

def Family.familyPrefix (family : Family) : Str :=
  (hash512 π (Text.encodeUtf8 family.familyName)).take 6

def makeAddress (family : Family) (appendix : Str) : Except PyError Str :=
  let address := family.familyPrefix π ++ appendix
  if isAddress address then .ok address
  else .error (.internalError s!"{String.ofList address} is not a valid address")

def makeAddressFromData (family : Family) (data : Bytes) : Except PyError Str :=
  makeAddress π family ((hash512 π data).take 64)

/-! ## Addresses are always well formed -/

/-- The address that `makeAddressFromData` returns. -/
def Family.address (family : Family) (data : Bytes) : Str :=
  family.familyPrefix π ++ (hash512 π data).take 64

theorem familyPrefix_eq (family : Family) :
    family.familyPrefix π = match family with
      | .account => "112007".toList
      | .atomicSwap => "78173b".toList
      | .pubKey => "a23be1".toList := by
  cases family
  · exact π.sha512_account
  · exact π.sha512_atomicSwap
  · exact π.sha512_pubKey

@[simp] theorem familyPrefix_length (family : Family) :
    (family.familyPrefix π).length = 6 := by
  simp [Family.familyPrefix, hash512, π.sha512_length]

theorem address_isLowerHex (family : Family) (data : Bytes) :
    ∀ c ∈ family.address π data, Text.isLowerHex c := by
  intro c hc
  rcases List.mem_append.mp hc with hc | hc
  · exact π.sha512_hex _ c (List.mem_of_mem_take hc)
  · exact π.sha512_hex _ c (List.mem_of_mem_take hc)

@[simp] theorem address_length (family : Family) (data : Bytes) :
    (family.address π data).length = 70 := by
  simp [Family.address, hash512, π.sha512_length]

@[simp] theorem makeAddressFromData_eq (family : Family) (data : Bytes) :
    makeAddressFromData π family data = .ok (family.address π data) := by
  have hne : family.address π data ≠ [] := by
    intro hnil
    have := address_length π family data
    simp [hnil] at this
  have hint := Text.int_isSome_of_lowerHex hne (address_isLowerHex π family data)
  have haddress : isAddress (family.address π data) = true := by
    simp [isAddress, hint]
  unfold makeAddressFromData makeAddress
  exact if_pos haddress

theorem familyPrefix_isPrefix_address (family : Family) (data : Bytes) :
    family.familyPrefix π <+: family.address π data :=
  List.prefix_append _ _

end Remme.Tp
