import MeshBridge.Text.Utf8
import Mathlib.Tactic.SplitIfs
/-!
Texts survive being written in UTF-8: what is decoded from the bytes of a text is that text
(`decode_encode`). The first byte of a character tells how many bytes it has, and the bounds on the
second byte leave every character in. They leave nothing else in: bytes are decoded as a text only
if they are the bytes of that text (`decode_eq_ok_iff`), so what is refused is the form of no text.
-/

set_option autoImplicit false
set_option relaxedAutoImplicit false

namespace MeshBridge.Utf8

/-! ### Bytes of a text -/

/-- The bytes of an array from one of them on. -/
theorem toList_loop (bytes : ByteArray) (i : Nat) (before : List UInt8) :
    ByteArray.toList.loop bytes i before = before.reverse ++ bytes.data.toList.drop i := by
  fun_induction ByteArray.toList.loop bytes i before with
  | case1 i before hlt ih =>
    have hin : i < bytes.data.toList.length := hlt
    have hget : bytes.get! i = bytes.data.toList[i] := getElem!_pos bytes.data i hlt
    rw [ih, List.drop_eq_getElem_cons hin, hget]
    simp
  | case2 i before hge =>
    have hout : bytes.data.toList.length ≤ i := Nat.le_of_not_lt hge
    rw [List.drop_eq_nil_of_le hout, List.append_nil]

/-- The bytes of a text are those of its characters in turn. -/
theorem encode_eq (text : String) : encode text = text.toList.flatMap String.utf8EncodeChar := by
  have hbytes : text.toUTF8.toList = text.toUTF8.data.toList := by
    rw [ByteArray.toList, toList_loop]
    rfl
  rw [encode, hbytes]
  show text.toByteArray.data.toList = _
  rw [← String.utf8Encode_toList]
  simp [List.utf8Encode]

/-! ### Characters -/

section Lead

variable {b c d e : UInt8} (rest : List UInt8)

theorem lead_one (hb : b < 0x80) : lead b rest = .char b.toNat 1 := by
  unfold lead
  rw [if_pos hb]

theorem lead_two (hb : 0xC2 ≤ b ∧ b ≤ 0xDF) (hc : isTail c = true) :
    lead b (c :: rest) = .char (b.toNat % 32 * 64 + tailBits c) 2 := by
  have hone : ¬ b < 0x80 := by
    simp only [UInt8.le_iff_toNat_le, UInt8.lt_iff_toNat_lt, UInt8.reduceToNat] at hb ⊢
    omega
  simp [lead, hone, hb, hc]

theorem lead_three (hb : 0xE0 ≤ b ∧ b ≤ 0xEF) (hc : allowedSecond b c = true)
    (hd : isTail d = true) :
    lead b (c :: d :: rest) =
      .char ((b.toNat % 16 * 64 + tailBits c) * 64 + tailBits d) 3 := by
  have hfewer : ¬ b < 0x80 ∧ ¬ b ≤ 0xDF := by
    simp only [UInt8.le_iff_toNat_le, UInt8.lt_iff_toNat_lt, UInt8.reduceToNat] at hb ⊢
    omega
  simp [lead, hfewer, hb, hc, hd]

theorem lead_four (hb : 0xF0 ≤ b ∧ b ≤ 0xF4) (hc : allowedSecond b c = true)
    (hd : isTail d = true) (he : isTail e = true) :
    lead b (c :: d :: e :: rest) =
      .char (((b.toNat % 8 * 64 + tailBits c) * 64 + tailBits d) * 64 + tailBits e) 4 := by
  have hfewer : ¬ b < 0x80 ∧ ¬ b ≤ 0xDF ∧ ¬ b ≤ 0xEF := by
    simp only [UInt8.le_iff_toNat_le, UInt8.lt_iff_toNat_lt, UInt8.reduceToNat] at hb ⊢
    omega
  simp [lead, hfewer, hb, hc, hd, he]

end Lead

/-- A byte that continues a character holds six bits of it. -/
theorem tail_ofNat {bits : Nat} (h : bits < 64) :
    isTail (UInt8.ofNat (bits + 128)) = true ∧ tailBits (UInt8.ofNat (bits + 128)) = bits := by
  simp only [isTail, tailBits, Bool.and_eq_true, decide_eq_true_eq, UInt8.le_iff_toNat_le,
    UInt8.toNat_ofNat', UInt8.reduceToNat]
  omega

/-- The bounds on the second byte let every character of three bytes in. -/
theorem allowedSecond_of_three {n : Nat} (h : 0x7FF < n)
    (hvalid : n < 0xD800 ∨ 0xDFFF < n ∧ n < 0x10000) :
    allowedSecond (UInt8.ofNat (n / 4096 % 16 + 224)) (UInt8.ofNat (n / 64 % 64 + 128)) = true := by
  simp only [allowedSecond, isTail, ← UInt8.toNat_inj, UInt8.le_iff_toNat_le, UInt8.toNat_ofNat',
    UInt8.reduceToNat]
  split_ifs <;> simp only [Bool.and_eq_true, decide_eq_true_eq] <;> omega

/-- The bounds on the second byte let every character of four bytes in. -/
theorem allowedSecond_of_four {n : Nat} (h : 0xFFFF < n) (hvalid : n < 0x110000) :
    allowedSecond (UInt8.ofNat (n / 262144 % 8 + 240)) (UInt8.ofNat (n / 4096 % 64 + 128)) =
      true := by
  simp only [allowedSecond, isTail, ← UInt8.toNat_inj, UInt8.le_iff_toNat_le, UInt8.toNat_ofNat',
    UInt8.reduceToNat]
  split_ifs <;> simp only [Bool.and_eq_true, decide_eq_true_eq] <;> omega

/-- The first byte of a character is read together with the others as this character. -/
theorem lead_utf8EncodeChar (c : Char) (rest : List UInt8) :
    ∃ b tail, String.utf8EncodeChar c = b :: tail ∧
      lead b (tail ++ rest) = .char c.toNat (tail.length + 1) := by
  have hvalid : c.toNat < 0xD800 ∨ 0xDFFF < c.toNat ∧ c.toNat < 0x110000 := c.valid
  have htoNat : c.val.toNat = c.toNat := rfl
  unfold String.utf8EncodeChar
  simp only [htoNat]
  generalize c.toNat = n at hvalid
  have hlast := tail_ofNat (Nat.mod_lt n (by decide : 0 < 64))
  have hmiddle := tail_ofNat (Nat.mod_lt (n / 64) (by decide : 0 < 64))
  have hsecond := tail_ofNat (Nat.mod_lt (n / 4096) (by decide : 0 < 64))
  split_ifs with hone htwo hthree
  · refine ⟨_, _, rfl, ?_⟩
    have hvalue : (UInt8.ofNat n).toNat = n := by rw [UInt8.toNat_ofNat']; omega
    have hb : UInt8.ofNat n < 0x80 := by rw [UInt8.lt_iff_toNat_lt, hvalue]; simp; omega
    rw [List.nil_append, lead_one rest hb, hvalue]
    rfl
  · refine ⟨_, _, rfl, ?_⟩
    have hvalue : (UInt8.ofNat (n / 64 % 32 + 192)).toNat = n / 64 + 192 := by
      rw [UInt8.toNat_ofNat']; omega
    have hb : 0xC2 ≤ UInt8.ofNat (n / 64 % 32 + 192) ∧ UInt8.ofNat (n / 64 % 32 + 192) ≤ 0xDF := by
      simp only [UInt8.le_iff_toNat_le, hvalue, UInt8.reduceToNat]
      omega
    rw [List.singleton_append, lead_two rest hb hlast.1, hvalue, hlast.2]
    congr 1
    omega
  · refine ⟨_, _, rfl, ?_⟩
    have hvalue : (UInt8.ofNat (n / 4096 % 16 + 224)).toNat = n / 4096 + 224 := by
      rw [UInt8.toNat_ofNat']; omega
    have hb : 0xE0 ≤ UInt8.ofNat (n / 4096 % 16 + 224) ∧
        UInt8.ofNat (n / 4096 % 16 + 224) ≤ 0xEF := by
      simp only [UInt8.le_iff_toNat_le, hvalue, UInt8.reduceToNat]
      omega
    have hallowed := allowedSecond_of_three (Nat.lt_of_not_le htwo) (by omega)
    show lead _ (_ :: _ :: rest) = _
    rw [lead_three rest hb hallowed hlast.1, hvalue, hmiddle.2, hlast.2]
    congr 1
    omega
  · refine ⟨_, _, rfl, ?_⟩
    have hvalue : (UInt8.ofNat (n / 262144 % 8 + 240)).toNat = n / 262144 + 240 := by
      rw [UInt8.toNat_ofNat']; omega
    have hb : 0xF0 ≤ UInt8.ofNat (n / 262144 % 8 + 240) ∧
        UInt8.ofNat (n / 262144 % 8 + 240) ≤ 0xF4 := by
      simp only [UInt8.le_iff_toNat_le, hvalue, UInt8.reduceToNat]
      omega
    have hallowed := allowedSecond_of_four (Nat.lt_of_not_le hthree) (by omega)
    show lead _ (_ :: _ :: _ :: rest) = _
    rw [lead_four rest hb hallowed hmiddle.1 hlast.1, hvalue, hsecond.2, hmiddle.2, hlast.2]
    congr 1
    omega

/-! ### Decoding -/

/-- Bytes of a character that was read are passed over. -/
theorem decodeFrom_append (index : Nat) (tail rest : List UInt8) :
    decodeFrom index tail.length (tail ++ rest) = decodeFrom (index + tail.length) 0 rest := by
  induction tail generalizing index with
  | nil => rfl
  | cons b tail ih =>
    rw [List.length_cons, List.cons_append, decodeFrom, ih]
    congr 1
    omega

theorem decodeFrom_flatMap (index : Nat) (cs : List Char) :
    decodeFrom index 0 (cs.flatMap String.utf8EncodeChar) = .ok cs := by
  induction cs generalizing index with
  | nil => rfl
  | cons c cs ih =>
    obtain ⟨b, tail, hbytes, hlead⟩ :=
      lead_utf8EncodeChar c (cs.flatMap String.utf8EncodeChar)
    rw [List.flatMap_cons, hbytes, List.cons_append, decodeFrom, hlead]
    simp only [Nat.add_sub_cancel, decodeFrom_append, ih, Except.map, Char.ofNat_toNat]

/-- What is decoded from the bytes of a text is the text. -/
theorem decode_encode (text : String) : decode (encode text) = .ok text := by
  rw [decode, encode_eq, decodeFrom_flatMap, Except.map, String.ofList_toList]

/-! ### Nothing else is decoded -/

section Strictness

variable {b c d e : UInt8} {rest : List UInt8} {n scalar length : Nat}

theorem toNat_of_isTail (h : isTail b = true) : 128 ≤ b.toNat ∧ b.toNat ≤ 191 := by
  simpa [isTail, UInt8.le_iff_toNat_le] using h

/-- The second byte continues a character, within the bounds that go with the first. -/
theorem toNat_of_allowedSecond (h : allowedSecond b c = true) :
    (128 ≤ c.toNat ∧ c.toNat ≤ 191) ∧ (b.toNat = 0xE0 → 0xA0 ≤ c.toNat) ∧
      (b.toNat = 0xED → c.toNat ≤ 0x9F) ∧ (b.toNat = 0xF0 → 0x90 ≤ c.toNat) ∧
        (b.toNat = 0xF4 → c.toNat ≤ 0x8F) := by
  simp only [allowedSecond, isTail, ← UInt8.toNat_inj, UInt8.le_iff_toNat_le,
    UInt8.reduceToNat] at h
  split_ifs at h <;> simp only [Bool.and_eq_true, decide_eq_true_eq] at h <;> omega

/-- The form of the character with a number, by the number. -/
theorem utf8EncodeChar_ofNat (h : n < 0xD800 ∨ 0xDFFF < n ∧ n < 0x110000) :
    String.utf8EncodeChar (Char.ofNat n) =
      if n ≤ 0x7F then [n.toUInt8]
      else if n ≤ 0x7FF then [(n / 64 + 192).toUInt8, (n % 64 + 128).toUInt8]
      else if n ≤ 0xFFFF then
        [(n / 4096 + 224).toUInt8, (n / 64 % 64 + 128).toUInt8, (n % 64 + 128).toUInt8]
      else [(n / 262144 + 240).toUInt8, (n / 4096 % 64 + 128).toUInt8, (n / 64 % 64 + 128).toUInt8,
        (n % 64 + 128).toUInt8] := by
  have hvalue : (Char.ofNat n).val.toNat = n := by
    have hvalid : n.isValidChar := h
    have hscalar : Char.ofNat n = Char.ofNatAux n hvalid := dif_pos hvalid
    rw [hscalar]
    rfl
  rw [String.utf8EncodeChar]
  simp only [hvalue]
  split_ifs
  · rfl
  · have : n / 64 % 32 = n / 64 := by omega
    rw [this]
  · have : n / 4096 % 16 = n / 4096 := by omega
    rw [this]
  · have : n / 262144 % 8 = n / 262144 := by omega
    rw [this]

theorem toUInt8_eq (h : n = b.toNat) : n.toUInt8 = b := by
  rw [h]
  exact UInt8.ofNat_toNat

theorem utf8EncodeChar_two (hb : 0xC2 ≤ b.toNat ∧ b.toNat ≤ 0xDF) (hc : isTail c = true) :
    String.utf8EncodeChar (Char.ofNat (b.toNat % 32 * 64 + tailBits c)) = [b, c] := by
  have hcBound := toNat_of_isTail hc
  unfold tailBits
  rw [utf8EncodeChar_ofNat (by omega), if_neg (by omega), if_pos (by omega),
    toUInt8_eq (b := b) (by omega), toUInt8_eq (b := c) (by omega)]

theorem utf8EncodeChar_three (hb : 0xE0 ≤ b.toNat ∧ b.toNat ≤ 0xEF)
    (hc : allowedSecond b c = true) (hd : isTail d = true) :
    String.utf8EncodeChar
      (Char.ofNat ((b.toNat % 16 * 64 + tailBits c) * 64 + tailBits d)) = [b, c, d] := by
  have hcBounds := toNat_of_allowedSecond hc
  have hdBound := toNat_of_isTail hd
  unfold tailBits
  rw [utf8EncodeChar_ofNat (by omega), if_neg (by omega), if_neg (by omega), if_pos (by omega),
    toUInt8_eq (b := b) (by omega), toUInt8_eq (b := c) (by omega), toUInt8_eq (b := d) (by omega)]

theorem utf8EncodeChar_four (hb : 0xF0 ≤ b.toNat ∧ b.toNat ≤ 0xF4)
    (hc : allowedSecond b c = true) (hd : isTail d = true) (he : isTail e = true) :
    String.utf8EncodeChar (Char.ofNat
      (((b.toNat % 8 * 64 + tailBits c) * 64 + tailBits d) * 64 + tailBits e)) = [b, c, d, e] := by
  have hcBounds := toNat_of_allowedSecond hc
  have hdBound := toNat_of_isTail hd
  have heBound := toNat_of_isTail he
  unfold tailBits
  rw [utf8EncodeChar_ofNat (by omega), if_neg (by omega), if_neg (by omega), if_neg (by omega),
    toUInt8_eq (b := b) (by omega), toUInt8_eq (b := c) (by omega), toUInt8_eq (b := d) (by omega),
    toUInt8_eq (b := e) (by omega)]

/-- What is read as a character is the form of that character, and no other form of it is. -/
theorem exists_of_lead (h : lead b rest = .char scalar length) :
    ∃ tail after, rest = tail ++ after ∧ length = tail.length + 1 ∧
      String.utf8EncodeChar (Char.ofNat scalar) = b :: tail := by
  unfold lead at h
  simp only [UInt8.le_iff_toNat_le, UInt8.lt_iff_toNat_lt, UInt8.reduceToNat, Bool.and_eq_true,
    decide_eq_true_eq] at h
  split_ifs at h with hone htwo hthree hfour
  · cases h
    refine ⟨[], rest, rfl, rfl, ?_⟩
    rw [utf8EncodeChar_ofNat (by omega), if_pos (by omega), toUInt8_eq rfl]
  · rcases rest with _ | ⟨c, after⟩
    · cases h
    · dsimp only at h
      split_ifs at h with hc
      cases h
      exact ⟨[c], after, rfl, rfl, utf8EncodeChar_two htwo hc⟩
  · rcases rest with _ | ⟨c, _ | ⟨d, after⟩⟩
    · cases h
    · dsimp only at h
      split_ifs at h
    · dsimp only at h
      split_ifs at h with hc hd
      cases h
      rw [Bool.not_eq_true, Bool.not_eq_false'] at hc
      exact ⟨[c, d], after, rfl, rfl, utf8EncodeChar_three hthree hc hd⟩
  · rcases rest with _ | ⟨c, _ | ⟨d, _ | ⟨e, after⟩⟩⟩
    · cases h
    · dsimp only at h
      split_ifs at h
    · dsimp only at h
      split_ifs at h
    · dsimp only at h
      split_ifs at h with hc hd he
      cases h
      rw [Bool.not_eq_true, Bool.not_eq_false'] at hc hd
      exact ⟨[c, d, e], after, rfl, rfl, utf8EncodeChar_four hfour hc hd he⟩

/-- What was decoded has the bytes that it was decoded from. By induction on how many there are. -/
theorem flatMap_of_decodeFrom {index : Nat} {bytes : List UInt8} {cs : List Char}
    (h : decodeFrom index 0 bytes = .ok cs) : cs.flatMap String.utf8EncodeChar = bytes := by
  induction hsize : bytes.length using Nat.strongRecOn generalizing index bytes cs with
  | _ size ih =>
    cases bytes with
    | nil =>
      cases h
      rfl
    | cons b rest =>
      rw [decodeFrom] at h
      cases hlead : lead b rest with
      | bad length =>
        rw [hlead] at h
        cases h
      | short =>
        rw [hlead] at h
        cases h
      | char scalar length =>
        obtain ⟨tail, after, rfl, rfl, hform⟩ := exists_of_lead hlead
        rw [hlead] at h
        simp only [Nat.add_sub_cancel, decodeFrom_append] at h
        cases hafter : decodeFrom (index + 1 + tail.length) 0 after with
        | error defect =>
          rw [hafter] at h
          cases h
        | ok others =>
          rw [hafter] at h
          cases h
          have hfewer : after.length < size := by
            rw [← hsize, List.length_cons, List.length_append]
            omega
          rw [List.flatMap_cons, hform, ih after.length hfewer hafter rfl]
          rfl

/-- A text is read from its own bytes only. -/
theorem encode_of_decode {bytes : List UInt8} {text : String} (h : decode bytes = .ok text) :
    encode text = bytes := by
  unfold decode at h
  cases hdecode : decodeFrom 0 0 bytes with
  | error defect =>
    rw [hdecode] at h
    cases h
  | ok cs =>
    rw [hdecode] at h
    cases h
    rw [encode_eq, String.toList_ofList, flatMap_of_decodeFrom hdecode]

theorem decode_eq_ok_iff {bytes : List UInt8} {text : String} :
    decode bytes = .ok text ↔ encode text = bytes :=
  ⟨encode_of_decode, fun hencode ↦ hencode ▸ decode_encode text⟩

/-- A text without bytes is empty. -/
theorem encode_eq_nil_iff {text : String} : encode text = [] ↔ text = "" := by
  rw [← decode_eq_ok_iff]
  exact ⟨fun hread ↦ (Except.ok.inj hread).symm, fun hempty ↦ hempty ▸ rfl⟩

end Strictness

end MeshBridge.Utf8
