/-!
Numbers as bytes, the least significant first.
-/

set_option autoImplicit false
set_option relaxedAutoImplicit false

namespace MeshBridge.LittleEndian

/-- The number that bytes hold. -/
def decode : List UInt8 → Nat
  | [] => 0
  | b :: rest => b.toNat + 256 * decode rest

/-- The low `width` bytes of a number. -/
def encode : (width : Nat) → Nat → List UInt8
  | 0, _ => []
  | width + 1, n => n.toUInt8 :: encode width (n / 256)

theorem length_encode (width n : Nat) : (encode width n).length = width := by
  induction width generalizing n with
  | zero => rfl
  | succ width ih => simp [encode, ih]

theorem decode_encode (width n : Nat) : decode (encode width n) = n % Nat.pow 256 width := by
  induction width generalizing n with
  | zero => simp [encode, decode, Nat.pow, Nat.mod_one]
  | succ width ih =>
    have byte : n.toUInt8.toNat = n % 256 := by simp
    rw [encode, decode, ih, byte]
    show _ = n % (Nat.pow 256 width * 256)
    rw [Nat.mul_comm (Nat.pow 256 width), Nat.mod_mul]

theorem decode_lt (bytes : List UInt8) : decode bytes < Nat.pow 256 bytes.length := by
  induction bytes with
  | nil => exact Nat.one_pos
  | cons b rest ih =>
    have hbyte := b.toNat_lt
    show b.toNat + 256 * decode rest < Nat.pow 256 rest.length * 256
    omega

theorem encode_decode (bytes : List UInt8) : encode bytes.length (decode bytes) = bytes := by
  induction bytes with
  | nil => rfl
  | cons b rest ih =>
    have hbyte := b.toNat_lt
    have hlow : (b.toNat + 256 * decode rest).toUInt8 = b := by
      rw [← UInt8.toNat_inj]
      simp
    have hhigh : (b.toNat + 256 * decode rest) / 256 = decode rest := by omega
    rw [List.length_cons, decode, encode, hlow, hhigh, ih]

end MeshBridge.LittleEndian
