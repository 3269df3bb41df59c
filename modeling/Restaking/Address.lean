import Restaking.Keccak
import Restaking.Text.Hex
import Restaking.Value.Conversion

/-!
# Addresses

An account is named by twenty bytes. Its canonical text has forty hexadecimal digits after `0x`, and
the case of each letter is a checksum: upper case exactly where the Keccak-256 hash of the lower-case
digits has a nibble of at least eight. Reading takes any letter case.
-/
namespace Restaking

open Restaking.Text

structure Address where
  bytes : List UInt8
  length_eq : bytes.length = 20
  deriving DecidableEq

namespace Address

/-- The address of twenty bytes. -/
def ofBytes? (bs : List UInt8) : Option Address :=
  if h : bs.length = 20 then some ⟨bs, h⟩ else none

/-- The address that a text spells: forty digits in either case, after one mark or none. -/
def ofText? (cs : List Char) : Option Address := (Hex.decode? (Hex.dropMark cs)).bind ofBytes?

/-- The address that a value denotes. -/
def ofValue? : Value → Option Address
  | .text s => ofText? s.toList
  | .bytes bs | .buffer bs => ofBytes? bs
  | _ => none

/-- The address that no contract has. -/
def zero : Address := ⟨List.replicate 20 0, by decide⟩

/-- The forty digits in lower case. -/
def digits (a : Address) : List Char := Hex.encode a.bytes

/-- The halves of each byte, the high one first. -/
def nibbles (bs : List UInt8) : List Nat := bs.flatMap fun b => [b.toNat / 16, b.toNat % 16]

/-- Digits with their checksum: upper case where the hash has a large nibble. -/
def checksummed (digits : List Char) : List Char :=
  List.zipWith (fun c n => if 8 ≤ n then c.toUpper else c) digits (nibbles (Keccak.hashText digits))

/-- The canonical text. -/
def text (a : Address) : String := String.ofList ('0' :: 'x' :: checksummed a.digits)

/-- The address in a node's answer, which may also be a number with exactly forty digits. -/
def ofAnswer : Value → Except ConversionError Address
  | .text s => (ofText? s.toList).elim (.error .notAddress) .ok
  | .bytes bs | .buffer bs => (ofBytes? bs).elim (.error .notAddress) .ok
  | .int n =>
    if n < 0 then .error .notAddress
    else (ofText? (Hex.ofNat n.toNat)).elim (.error .notAddress) .ok
  | .bool _ => .error .notAddress
  | _ => .error .notAddressType

theorem length_digits (a : Address) : a.digits.length = 40 := by
  rw [digits, Hex.length_encode, a.length_eq]

theorem length_nibbles (bs : List UInt8) : (nibbles bs).length = 2 * bs.length := by
  induction bs with
  | nil => rfl
  | cons b rest ih =>
    simp only [nibbles, List.flatMap_cons, List.length_append, List.length_cons,
      List.length_nil] at *
    omega

/-- The checksum changes no digit's value. -/
theorem map_digit?_zipWith {ds : List Char} {ns : List Nat} (hl : ds.length ≤ ns.length)
    (hd : ∀ c ∈ ds, ∃ n, n < 16 ∧ c = Hex.digitChar n) :
    (List.zipWith (fun c n => if 8 ≤ n then c.toUpper else c) ds ns).map Hex.digit? =
      ds.map Hex.digit? := by
  induction ds generalizing ns with
  | nil => rfl
  | cons c rest ih =>
    cases ns with
    | nil => simp at hl
    | cons n more =>
      obtain ⟨v, hv, rfl⟩ := hd c List.mem_cons_self
      have head : Hex.digit? (if 8 ≤ n then (Hex.digitChar v).toUpper else Hex.digitChar v) =
          Hex.digit? (Hex.digitChar v) := by
        split
        · rw [Hex.digit?_toUpper_digitChar hv, Hex.digit?_digitChar hv]
        · rfl
      simp only [List.zipWith_cons_cons, List.map_cons, head,
        ih (Nat.le_of_succ_le_succ hl) fun x hx => hd x (List.mem_cons_of_mem _ hx)]

/-- The hash has a nibble for each digit. -/
theorem length_digits_le (a : Address) : a.digits.length ≤ (nibbles (Keccak.hashText a.digits)).length := by
  rw [a.length_digits, length_nibbles, Keccak.hashText, Keccak.length_hash]
  decide

theorem map_digit?_checksummed (a : Address) :
    (checksummed a.digits).map Hex.digit? = a.digits.map Hex.digit? :=
  map_digit?_zipWith a.length_digits_le fun _ hc => Hex.exists_digitChar hc

/-- The canonical text reads back as the address. -/
theorem ofText?_text (a : Address) : ofText? a.text.toList = some a := by
  have hd := Hex.decode?_congr a.map_digit?_checksummed
  have hb : Hex.decode? a.digits = some a.bytes := Hex.decode?_encode a.bytes
  simp only [text, String.toList_ofList, ofText?, Hex.dropMark, hd, hb, Option.bind_some, ofBytes?,
    a.length_eq, dif_pos]

end Address

end Restaking
