/-!
# Hexadecimal text

Bytes are written as two digits each, high half first, in lower case; reading takes either case and
an even number of digits. Reading what was written gives the bytes back.
-/
namespace Restaking.Text.Hex

/-- The value of a digit in either case. -/
def digit? (c : Char) : Option Nat :=
  if '0' ≤ c ∧ c ≤ '9' then some (c.toNat - 48)
  else if 'a' ≤ c ∧ c ≤ 'f' then some (c.toNat - 87)
  else if 'A' ≤ c ∧ c ≤ 'F' then some (c.toNat - 55)
  else none

/-- The lower-case digit of a value below sixteen. -/
def digitChar (n : Nat) : Char :=
  if n < 10 then Char.ofNat (48 + n) else Char.ofNat (87 + n)

/-- The two digits of one byte. -/
def encodeByte (b : UInt8) : List Char :=
  [digitChar (b.toNat / 16), digitChar (b.toNat % 16)]

/-- Two digits for each byte. -/
def encode (bs : List UInt8) : List Char := bs.flatMap encodeByte

/-- Reads pairs of digits. -/
def decode? : List Char → Option (List UInt8)
  | [] => some []
  | [_] => none
  | h :: l :: rest => do
    let high ← digit? h
    let low ← digit? l
    let bytes ← decode? rest
    return UInt8.ofNat (16 * high + low) :: bytes

/-- Drops one leading `0x` or `0X`. -/
def dropMark : List Char → List Char
  | '0' :: 'x' :: rest => rest
  | '0' :: 'X' :: rest => rest
  | cs => cs

/-- Digits of which an odd number stands for one more, a zero in front. -/
def evened (cs : List Char) : List Char := if cs.length % 2 = 1 then '0' :: cs else cs

/-- The digits of a number without leading zeros; zero has one digit. -/
def ofNat (n : Nat) : List Char := Nat.toDigits 16 n

/-- Digits of `n` with zeros in front up to a width. -/
def padded (width n : Nat) : List Char :=
  let digits := ofNat n
  List.replicate (width - digits.length) '0' ++ digits

theorem digit?_digitChar {n : Nat} (h : n < 16) : digit? (digitChar n) = some n := by
  have : ∀ m : Fin 16, digit? (digitChar m) = some m.val := by decide
  exact this ⟨n, h⟩

theorem decode?_encode (bs : List UInt8) : decode? (encode bs) = some bs := by
  induction bs with
  | nil => rfl
  | cons b rest ih =>
    have hb := b.toNat_lt
    have high : digit? (digitChar (b.toNat / 16)) = some (b.toNat / 16) :=
      digit?_digitChar (by omega)
    have low : digit? (digitChar (b.toNat % 16)) = some (b.toNat % 16) :=
      digit?_digitChar (by omega)
    have join : 16 * (b.toNat / 16) + b.toNat % 16 = b.toNat := by omega
    change decode? (digitChar (b.toNat / 16) :: digitChar (b.toNat % 16) :: encode rest) = _
    rw [decode?, high, low, ih]
    change some (UInt8.ofNat (16 * (b.toNat / 16) + b.toNat % 16) :: rest) = _
    rw [join, UInt8.ofNat_toNat]

/-- The case of a digit does not change its value. -/
theorem digit?_toUpper_digitChar {n : Nat} (h : n < 16) : digit? (digitChar n).toUpper = some n := by
  have all : ∀ m : Fin 16, digit? (digitChar m).toUpper = some m.val := by decide
  exact all ⟨n, h⟩

theorem length_encode (bs : List UInt8) : (encode bs).length = 2 * bs.length := by
  induction bs with
  | nil => rfl
  | cons b rest ih =>
    change (encodeByte b ++ encode rest).length = _
    simp only [List.length_append, ih, encodeByte, List.length_cons, List.length_nil]
    omega

/-- What is written consists of lower-case digits. -/
theorem exists_digitChar {bs : List UInt8} {c : Char} (h : c ∈ encode bs) :
    ∃ n, n < 16 ∧ c = digitChar n := by
  obtain ⟨b, _, hc⟩ := List.mem_flatMap.1 h
  have hb := b.toNat_lt
  simp only [encodeByte, List.mem_cons, List.not_mem_nil, or_false] at hc
  rcases hc with rfl | rfl
  · exact ⟨_, by omega, rfl⟩
  · exact ⟨_, by omega, rfl⟩

/-- Texts whose digits have the same values read alike. -/
theorem decode?_congr :
    ∀ {cs ds : List Char}, cs.map digit? = ds.map digit? → decode? cs = decode? ds
  | [], [], _ => rfl
  | [_], [_], _ => rfl
  | [_], _ :: _ :: _, h => by simp at h
  | _ :: _ :: _, [_], h => by simp at h
  | a :: b :: cs, c :: d :: ds, h => by
    simp only [List.map_cons, List.cons.injEq] at h
    rw [decode?, decode?, h.1, h.2.1, decode?_congr h.2.2]

end Restaking.Text.Hex
