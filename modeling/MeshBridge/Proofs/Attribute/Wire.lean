import MeshBridge.Attribute.Wire
import MeshBridge.Proofs.Text.Utf8
/-!
Attribute values on the air. Every value that a format carries has one form, which is read back as
that value. What can be read at all is such a form, but for two liberties of strings: what follows a
string is not looked at, and a string whose length is marked as absent is read as an empty one. All
other bytes are refused, for one of the six reasons of `Malformed` (`decode_exact`).
-/

set_option autoImplicit false
set_option relaxedAutoImplicit false

namespace MeshBridge

/-- The bytes of a string. -/
def AttributeValue.content : AttributeValue → List UInt8
  | string text => Utf8.encode text
  | array bytes => bytes
  | _ => []

namespace Wire

variable {α : Type} {code : UInt8} {raw bytes : List UInt8} {format : Format} {width : Nat}
  {v : AttributeValue} {f : Fault}

namespace Format

/-- The type of the values that a format carries. -/
def type : Format → AttributeType
  | boolean => .bool
  | bitmap8 | uint8 | enum8 => .u8
  | bitmap16 | uint16 => .u16
  | uint32 => .u32
  | int8 => .i8
  | int16 => .i16
  | int32 => .i32
  | octetString => .array
  | charString => .string

/-- How many bytes a value takes. A string takes as many as it says. -/
def width? : Format → Option Nat
  | boolean | bitmap8 | uint8 | int8 | enum8 => some 1
  | bitmap16 | uint16 | int16 => some 2
  | uint32 | int32 => some 4
  | octetString | charString => none

theorem ofCode?_eq_some_iff : ofCode? code = some format ↔ format.code = code := by
  constructor
  · intro hfind
    simpa using List.find?_some hfind
  · rintro rfl
    cases format <;> rfl

/-- Formats have different numbers. -/
theorem eq_of_code_eq {first second : Format} (h : first.code = second.code) : first = second := by
  have hfirst := ofCode?_eq_some_iff.2 h
  have hsecond := ofCode?_eq_some_iff.2 (Eq.refl second.code)
  exact Option.some.inj (hfirst.symm.trans hsecond)

end Format

/-- The bytes hold a value in a format: they are its form; or it is a string, and they begin with
its form, or they begin with the mark of an absent string and it is empty. -/
def Holds (format : Format) (raw : List UInt8) (v : AttributeValue) : Prop :=
  match format.width? with
  | some _ => encode format v = some raw
  | none => (∃ form, encode format v = some form ∧ form <+: raw) ∨
      raw.head? = some 0xFF ∧ v = .zero format.type

/-- Why bytes hold no value. -/
inductive Malformed (code : UInt8) (raw : List UInt8) : Prop
  /-- No format has the number. -/
  | unsupported (h : ∀ format, Format.code format ≠ code)
  | width {format : Format} {width : Nat} (hcode : format.code = code)
      (hwidth : format.width? = some width) (h : raw.length ≠ width)
  /-- Truth values are 0 or 1. -/
  | truth {n : UInt8} (hcode : Format.boolean.code = code) (hraw : raw = [n]) (h : 1 < n)
  | noLength {format : Format} (hcode : format.code = code) (hwidth : format.width? = none)
      (h : raw = [])
  /-- There are fewer bytes than the string says. -/
  | short {format : Format} {length : UInt8} {rest : List UInt8} (hcode : format.code = code)
      (hwidth : format.width? = none) (hraw : raw = length :: rest) (hpresent : length ≠ 0xFF)
      (h : rest.length < length.toNat)
  /-- The bytes of the string are those of no text. -/
  | noText {length : UInt8} {rest : List UInt8} (hcode : Format.charString.code = code)
      (hraw : raw = length :: rest) (hpresent : length ≠ 0xFF)
      (hlength : length.toNat ≤ rest.length)
      (h : ∀ text, Utf8.encode text ≠ rest.take length.toNat)

/-! ### Numbers -/

theorem fixed_of_length (code : UInt8) (h : raw.length = width) :
    fixed code width raw = .ok (LittleEndian.decode raw) := if_pos h

theorem fixed_of_length_ne (code : UInt8) (h : raw.length ≠ width) :
    ∃ detail, fixed code width raw = .error (.invalidArgument detail) := ⟨_, if_neg h⟩

/-- Numbers of one width are read from their forms only. -/
theorem map_fixed_eq_ok_iff (width : Nat) (made : α → AttributeValue) (ofNat : Nat → α)
    (toNat : α → Nat) (hback : ∀ a, ofNat (toNat a) = a)
    (hthere : ∀ n < Nat.pow 256 width, toNat (ofNat n) = n)
    (hbound : ∀ a, toNat a < Nat.pow 256 width) :
    (fixed code width raw).map (fun n ↦ made (ofNat n)) = .ok v ↔
      ∃ a, v = made a ∧ raw = LittleEndian.encode width (toNat a) := by
  constructor
  · intro hread
    by_cases hlength : raw.length = width
    · rw [fixed_of_length code hlength] at hread
      cases hread
      refine ⟨_, rfl, ?_⟩
      have hlt := LittleEndian.decode_lt raw
      rw [hlength] at hlt
      rw [hthere _ hlt, ← hlength, LittleEndian.encode_decode]
    · obtain ⟨detail, hrefused⟩ := fixed_of_length_ne code hlength
      rw [hrefused] at hread
      cases hread
  · rintro ⟨a, rfl, rfl⟩
    rw [fixed_of_length code (LittleEndian.length_encode ..), LittleEndian.decode_encode,
      Nat.mod_eq_of_lt (hbound a)]
    exact congrArg (fun a ↦ Except.ok (made a)) (hback a)

/-- Only two numbers are truth values. -/
theorem decodeBool_eq_ok_iff {n : Nat} :
    decodeBool n = .ok v ↔ ∃ b : Bool, v = .bool b ∧ n = b.toNat := by
  constructor
  · intro hread
    unfold decodeBool at hread
    split_ifs at hread with hfalse htrue
    · cases hread
      exact ⟨false, rfl, hfalse⟩
    · cases hread
      exact ⟨true, rfl, htrue⟩
  · rintro ⟨b, rfl, rfl⟩
    cases b <;> rfl

/-- Truth values are read from their forms only. -/
theorem bind_decodeBool_eq_ok_iff :
    (fixed code 1 raw).bind decodeBool = .ok v ↔ encode .boolean v = some raw := by
  constructor
  · intro hread
    by_cases hlength : raw.length = 1
    · obtain ⟨n, rfl⟩ := List.length_eq_one_iff.1 hlength
      rw [fixed_of_length code hlength] at hread
      obtain ⟨b, rfl, hn⟩ := decodeBool_eq_ok_iff.1 hread
      have hbyte : n = if b then 1 else 0 := by
        rw [← UInt8.toNat_inj]
        cases b <;> simpa [LittleEndian.decode] using hn
      rw [hbyte]
      rfl
    · obtain ⟨detail, hrefused⟩ := fixed_of_length_ne code hlength
      rw [hrefused] at hread
      cases hread
  · intro hform
    cases v with
    | bool b =>
      cases hform
      cases b <;> rfl
    | _ => cases hform

/-- A value of a fixed width is read from its form only. -/
theorem decodeAs_eq_ok_iff_of_width (hwidth : format.width? = some width) :
    decodeAs format raw = .ok v ↔ encode format v = some raw := by
  cases format with
  | boolean => exact bind_decodeBool_eq_ok_iff
  | bitmap8 | uint8 | enum8 =>
    refine (map_fixed_eq_ok_iff 1 .u8 Nat.toUInt8 UInt8.toNat (by simp)
      (fun n hn ↦ Nat.mod_eq_of_lt hn) fun n ↦ n.toNat_lt).trans ?_
    cases v <;> simp [encode, LittleEndian.encode, eq_comm]
  | bitmap16 | uint16 =>
    refine (map_fixed_eq_ok_iff 2 .u16 Nat.toUInt16 UInt16.toNat (by simp)
      (fun n hn ↦ Nat.mod_eq_of_lt hn) fun n ↦ n.toNat_lt).trans ?_
    cases v <;> simp [encode, eq_comm]
  | uint32 =>
    refine (map_fixed_eq_ok_iff 4 .u32 Nat.toUInt32 UInt32.toNat (by simp)
      (fun n hn ↦ Nat.mod_eq_of_lt hn) fun n ↦ n.toNat_lt).trans ?_
    cases v <;> simp [encode, eq_comm]
  | int8 =>
    refine (map_fixed_eq_ok_iff 1 .i8 (·.toUInt8.toInt8) (·.toUInt8.toNat) (by simp)
      (fun n hn ↦ Nat.mod_eq_of_lt hn) fun n ↦ n.toUInt8.toNat_lt).trans ?_
    cases v <;> simp [encode, eq_comm]
  | int16 =>
    refine (map_fixed_eq_ok_iff 2 .i16 (·.toUInt16.toInt16) (·.toUInt16.toNat) (by simp)
      (fun n hn ↦ Nat.mod_eq_of_lt hn) fun n ↦ n.toUInt16.toNat_lt).trans ?_
    cases v <;> simp [encode, eq_comm]
  | int32 =>
    refine (map_fixed_eq_ok_iff 4 .i32 (·.toUInt32.toInt32) (·.toUInt32.toNat) (by simp)
      (fun n hn ↦ Nat.mod_eq_of_lt hn) fun n ↦ n.toUInt32.toNat_lt).trans ?_
    cases v <;> simp [encode, eq_comm]
  | octetString | charString => cases hwidth

/-! ### Strings -/

theorem announced_eq_some_iff {form : List UInt8} :
    announced bytes = some form ↔ bytes.length ≤ 254 ∧ form = bytes.length.toUInt8 :: bytes := by
  unfold announced
  split_ifs with hlength
  · simp [hlength, eq_comm]
  · simp [hlength]

/-- A length other than the mark of an absent string is that of a string which can be announced. -/
theorem toNat_le_of_present {length : UInt8} (h : length ≠ 0xFF) : length.toNat ≤ 254 := by
  have hlt := length.toNat_lt
  have hne : length.toNat ≠ 255 := fun hsame ↦ h (UInt8.toNat_inj.1 hsame)
  omega

theorem lengthPrefixed_of_le {length : UInt8} {rest : List UInt8} (code : UInt8)
    (hpresent : length ≠ 0xFF) (hlength : length.toNat ≤ rest.length) :
    lengthPrefixed code (length :: rest) = .ok (rest.take length.toNat) := by
  rw [lengthPrefixed, if_neg hpresent, if_pos hlength]

theorem lengthPrefixed_of_short {length : UInt8} {rest : List UInt8} (code : UInt8)
    (hpresent : length ≠ 0xFF) (hshort : rest.length < length.toNat) :
    ∃ detail, lengthPrefixed code (length :: rest) = .error (.invalidArgument detail) :=
  ⟨_, by rw [lengthPrefixed, if_neg hpresent, if_neg (Nat.not_le.2 hshort)]⟩

/-- The bytes of a string are read where they are announced, or where they are marked as absent and
there are none. -/
theorem lengthPrefixed_eq_ok_iff :
    lengthPrefixed code raw = .ok bytes ↔
      (∃ form, announced bytes = some form ∧ form <+: raw) ∨
        raw.head? = some 0xFF ∧ bytes = [] := by
  constructor
  · intro hread
    cases raw with
    | nil => cases hread
    | cons length rest =>
      by_cases habsent : length = 0xFF
      · rw [lengthPrefixed, if_pos habsent] at hread
        cases hread
        exact Or.inr ⟨congrArg some habsent, rfl⟩
      · rcases Nat.lt_or_ge rest.length length.toNat with hshort | hlength
        · obtain ⟨detail, hrefused⟩ := lengthPrefixed_of_short code habsent hshort
          rw [hrefused] at hread
          cases hread
        · rw [lengthPrefixed_of_le code habsent hlength] at hread
          cases hread
          have htaken : (rest.take length.toNat).length = length.toNat :=
            List.length_take_of_le hlength
          refine Or.inl ⟨length :: rest.take length.toNat, announced_eq_some_iff.2 ?_, ?_⟩
          · rw [htaken]
            exact ⟨toNat_le_of_present habsent, congrArg (· :: _) UInt8.ofNat_toNat.symm⟩
          · exact (List.prefix_cons_inj length).2 (List.take_prefix ..)
  · rintro (⟨form, hform, rest, rfl⟩ | ⟨habsent, rfl⟩)
    · obtain ⟨hlength, rfl⟩ := announced_eq_some_iff.1 hform
      have hvalue : bytes.length.toUInt8.toNat = bytes.length := Nat.mod_eq_of_lt (by omega)
      have hpresent : bytes.length.toUInt8 ≠ 0xFF := by
        intro hmark
        have hsame : bytes.length = 255 := hvalue.symm.trans (congrArg UInt8.toNat hmark)
        omega
      rw [List.cons_append, lengthPrefixed_of_le code hpresent (by simp [hvalue]), hvalue,
        List.take_left]
    · cases raw with
      | nil => cases habsent
      | cons length rest => rw [lengthPrefixed, if_pos (Option.some.inj habsent)]

/-- A text is read from its own bytes only. -/
theorem decodeText_eq_ok_iff :
    decodeText bytes = .ok v ↔ ∃ text, v = .string text ∧ Utf8.encode text = bytes := by
  unfold decodeText
  constructor
  · intro hread
    split at hread
    · next text hdecoded =>
      cases hread
      exact ⟨text, rfl, Utf8.encode_of_decode hdecoded⟩
    · cases hread
  · rintro ⟨text, rfl, rfl⟩
    rw [Utf8.decode_encode]

/-- The empty string is the one without bytes. -/
theorem eq_zero_iff_of_string (hwidth : format.width? = none) :
    v = .zero format.type ↔ v.type = format.type ∧ v.content = [] := by
  cases format with
  | octetString =>
    cases v <;> simp [AttributeValue.zero, AttributeValue.type, AttributeValue.content, Format.type]
  | charString =>
    cases v <;>
      simp [AttributeValue.zero, AttributeValue.type, AttributeValue.content, Format.type,
        Utf8.encode_eq_nil_iff]
  | _ => cases hwidth

/-- The form of a string announces its bytes. -/
theorem encode_eq_some_iff_of_string {form : List UInt8} (hwidth : format.width? = none) :
    encode format v = some form ↔ v.type = format.type ∧ announced v.content = some form := by
  cases format with
  | octetString | charString =>
    cases v <;> simp [encode, AttributeValue.type, AttributeValue.content, Format.type]
  | _ => cases hwidth

theorem decodeAs_eq_ok_iff_of_string (hwidth : format.width? = none) :
    decodeAs format raw = .ok v ↔
      v.type = format.type ∧ lengthPrefixed format.code raw = .ok v.content := by
  cases format with
  | octetString =>
    cases hbytes : lengthPrefixed Format.octetString.code raw with
    | error f => simp [decodeAs, hbytes, Except.map]
    | ok bytes =>
      cases v <;>
        simp [decodeAs, hbytes, Except.map, AttributeValue.type, AttributeValue.content,
          Format.type]
  | charString =>
    cases hbytes : lengthPrefixed Format.charString.code raw with
    | error f => simp [decodeAs, hbytes, Except.bind]
    | ok bytes =>
      have hread : decodeAs .charString raw = decodeText bytes := by
        simp [decodeAs, hbytes, Except.bind]
      rw [hread, decodeText_eq_ok_iff]
      cases v <;> simp [AttributeValue.type, AttributeValue.content, Format.type, eq_comm]
  | _ => cases hwidth

/-! ### Values -/

/-- Values of a format have forms, strings as long as their length can be announced. -/
theorem exists_encode_iff :
    (∃ form, encode format v = some form) ↔ v.type = format.type ∧ v.content.length ≤ 254 := by
  cases hwidth : format.width? with
  | some width =>
    cases format with
    | octetString | charString => cases hwidth
    | _ => cases v <;> simp [encode, AttributeValue.type, AttributeValue.content, Format.type]
  | none =>
    simp only [encode_eq_some_iff_of_string hwidth, announced_eq_some_iff, exists_and_left,
      exists_eq, and_true]

/-- Exactly what holds a value in a format is read as that value. -/
theorem decodeAs_eq_ok_iff : decodeAs format raw = .ok v ↔ Holds format raw v := by
  unfold Holds
  cases hwidth : format.width? with
  | some width => exact decodeAs_eq_ok_iff_of_width hwidth
  | none =>
    rw [decodeAs_eq_ok_iff_of_string hwidth, lengthPrefixed_eq_ok_iff, eq_zero_iff_of_string hwidth]
    simp only [encode_eq_some_iff_of_string hwidth]
    constructor
    · rintro ⟨htype, ⟨form, hform, hbegins⟩ | ⟨habsent, hempty⟩⟩
      · exact Or.inl ⟨form, ⟨htype, hform⟩, hbegins⟩
      · exact Or.inr ⟨habsent, htype, hempty⟩
    · rintro (⟨form, ⟨htype, hform⟩, hbegins⟩ | ⟨habsent, htype, hempty⟩)
      · exact ⟨htype, Or.inl ⟨form, hform, hbegins⟩⟩
      · exact ⟨htype, Or.inr ⟨habsent, hempty⟩⟩

/-- The form of a value holds it. -/
theorem holds_encode {form : List UInt8} (h : encode format v = some form) :
    Holds format form v := by
  unfold Holds
  cases format.width? with
  | some width => exact h
  | none => exact Or.inl ⟨form, h, List.prefix_rfl⟩

theorem decode_eq_ok_iff :
    decode code raw = .ok v ↔ ∃ format, Format.code format = code ∧ Holds format raw v := by
  unfold decode
  cases hformat : Format.ofCode? code with
  | none =>
    have hno (format : Format) (hcode : format.code = code) : False := by
      cases hformat.symm.trans (Format.ofCode?_eq_some_iff.2 hcode)
    exact ⟨nofun, fun ⟨format, hcode, _⟩ ↦ (hno format hcode).elim⟩
  | some format =>
    have hcode := Format.ofCode?_eq_some_iff.1 hformat
    rw [decodeAs_eq_ok_iff]
    constructor
    · exact fun hholds ↦ ⟨format, hcode, hholds⟩
    · rintro ⟨other, hother, hholds⟩
      rwa [← Format.eq_of_code_eq (hother.trans hcode.symm)]

theorem decode_uint8 (n : UInt8) : decode Format.uint8.code [n] = .ok (.u8 n) := by
  have hformat : Format.ofCode? Format.uint8.code = some .uint8 := by decide
  simp [decode, hformat, decodeAs, fixed, LittleEndian.decode, Except.map]

/-! ### Refusals -/

theorem decode_of_code (hcode : format.code = code) : decode code raw = decodeAs format raw := by
  rw [decode, Format.ofCode?_eq_some_iff.2 hcode]

/-- A string whose bytes cannot be found is refused, whatever string it is. -/
theorem decodeAs_of_lengthPrefixed {detail : String} (hwidth : format.width? = none)
    (h : lengthPrefixed format.code raw = .error (.invalidArgument detail)) :
    decodeAs format raw = .error (.invalidArgument detail) := by
  cases format <;> cases hwidth <;> simp [decodeAs, h, Except.map, Except.bind]

/-- Malformed bytes are refused. -/
theorem Malformed.refused (h : Malformed code raw) :
    ∃ detail, decode code raw = .error (.invalidArgument detail) := by
  cases h with
  | unsupported hno =>
    have hformat : Format.ofCode? code = none := by
      rw [Option.eq_none_iff_forall_ne_some]
      exact fun format hsome ↦ hno format (Format.ofCode?_eq_some_iff.1 hsome)
    exact ⟨_, by rw [decode, hformat]⟩
  | @width format width hcode hwidth hlength =>
    obtain ⟨detail, hfixed⟩ := fixed_of_length_ne format.code hlength
    refine ⟨detail, ?_⟩
    rw [decode_of_code hcode]
    cases format <;> cases hwidth <;> simp [decodeAs, hfixed, Except.map, Except.bind]
  | @truth n hcode hraw hmore =>
    have hvalue : 1 < LittleEndian.decode [n] := by
      simpa [LittleEndian.decode, UInt8.lt_iff_toNat_lt] using hmore
    have hfixed : fixed Format.boolean.code 1 raw = .ok (LittleEndian.decode [n]) := by
      rw [hraw]
      rfl
    rw [decode_of_code hcode]
    simp only [decodeAs, hfixed, Except.bind, decodeBool]
    exact ⟨_, by rw [if_neg (by omega), if_neg (by omega)]⟩
  | @noLength format hcode hwidth hraw =>
    obtain ⟨detail, hrefused⟩ : ∃ detail,
        lengthPrefixed format.code raw = .error (.invalidArgument detail) := by
      rw [hraw]
      exact ⟨_, rfl⟩
    exact ⟨detail, (decode_of_code hcode).trans (decodeAs_of_lengthPrefixed hwidth hrefused)⟩
  | @short format length rest hcode hwidth hraw hpresent hshort =>
    obtain ⟨detail, hrefused⟩ := lengthPrefixed_of_short format.code hpresent hshort
    refine ⟨detail, (decode_of_code hcode).trans (decodeAs_of_lengthPrefixed hwidth ?_)⟩
    rw [hraw, hrefused]
  | @noText length rest hcode hraw hpresent hlength hno =>
    have hbytes := lengthPrefixed_of_le Format.charString.code hpresent hlength
    rw [← hraw] at hbytes
    rw [decode_of_code hcode]
    simp only [decodeAs, hbytes, Except.bind, decodeText]
    cases hdecoded : Utf8.decode (rest.take length.toNat) with
    | ok text => exact absurd (Utf8.encode_of_decode hdecoded) (hno text)
    | error defect => exact ⟨_, rfl⟩

theorem malformed_or_decoded_of_width (hcode : format.code = code)
    (hwidth : format.width? = some width) :
    Malformed code raw ∨ ∃ v, decodeAs format raw = .ok v := by
  by_cases hlength : raw.length = width
  · have hfixed := fixed_of_length format.code hlength
    cases format with
    | boolean =>
      cases hwidth
      obtain ⟨n, rfl⟩ := List.length_eq_one_iff.1 hlength
      rcases Nat.lt_or_ge 1 n.toNat with hmore | hone
      · exact Or.inl (.truth hcode rfl (UInt8.lt_iff_toNat_lt.2 hmore))
      · obtain ⟨b, hb⟩ : ∃ b : Bool, n.toNat = b.toNat := by
          rcases Nat.le_one_iff_eq_zero_or_eq_one.1 hone with hzero | hone
          · exact ⟨false, hzero⟩
          · exact ⟨true, hone⟩
        refine Or.inr ⟨.bool b, ?_⟩
        simp only [decodeAs, hfixed, Except.bind]
        exact decodeBool_eq_ok_iff.2 ⟨b, rfl, hb⟩
    | octetString | charString => cases hwidth
    | _ =>
      cases hwidth
      exact Or.inr ⟨_, by simp only [decodeAs, hfixed]; rfl⟩
  · exact Or.inl (.width hcode hwidth hlength)

theorem malformed_or_decoded_of_string (hcode : format.code = code)
    (hwidth : format.width? = none) :
    Malformed code raw ∨ ∃ v, decodeAs format raw = .ok v := by
  cases raw with
  | nil => exact Or.inl (.noLength hcode hwidth rfl)
  | cons length rest =>
    by_cases habsent : length = 0xFF
    · refine Or.inr ⟨.zero format.type, decodeAs_eq_ok_iff.2 ?_⟩
      rw [Holds, hwidth]
      exact Or.inr ⟨congrArg some habsent, rfl⟩
    · rcases Nat.lt_or_ge rest.length length.toNat with hshort | hlength
      · exact Or.inl (.short hcode hwidth rfl habsent hshort)
      · have hbytes := lengthPrefixed_of_le format.code habsent hlength
        cases format with
        | octetString =>
          exact Or.inr ⟨.array _, (decodeAs_eq_ok_iff_of_string hwidth).2 ⟨rfl, hbytes⟩⟩
        | charString =>
          by_cases htext : ∃ text, Utf8.encode text = rest.take length.toNat
          · obtain ⟨text, htext⟩ := htext
            rw [← htext] at hbytes
            exact Or.inr ⟨.string text, (decodeAs_eq_ok_iff_of_string hwidth).2 ⟨rfl, hbytes⟩⟩
          · exact Or.inl (.noText hcode rfl habsent hlength fun text hsame ↦ htext ⟨text, hsame⟩)
        | _ => cases hwidth

/-- Bytes that are not malformed are read. -/
theorem malformed_or_decoded (code : UInt8) (raw : List UInt8) :
    Malformed code raw ∨ ∃ v, decode code raw = .ok v := by
  by_cases hformat : ∃ format, Format.code format = code
  · obtain ⟨format, hcode⟩ := hformat
    rw [decode_of_code hcode]
    cases hwidth : format.width? with
    | some width => exact malformed_or_decoded_of_width hcode hwidth
    | none => exact malformed_or_decoded_of_string hcode hwidth
  · exact Or.inl (.unsupported fun format hcode ↦ hformat ⟨format, hcode⟩)

/-- How values are read from bytes and written as bytes. -/
structure Exact : Prop where
  /-- Every value of the type that a format carries has a form, strings up to 254 bytes. -/
  carried : ∀ format v, (∃ form, encode format v = some form) ↔
    v.type = format.type ∧ v.content.length ≤ 254
  /-- It is read back from its form. -/
  decode_form : ∀ format v form, encode format v = some form → decode format.code form = .ok v
  decode_iff : ∀ code raw v,
    decode code raw = .ok v ↔ ∃ format, Format.code format = code ∧ Holds format raw v
  refused_iff : ∀ code raw,
    (∃ detail, decode code raw = .error (.invalidArgument detail)) ↔ Malformed code raw
  /-- There is no other way to fail. -/
  error : ∀ code raw f, decode code raw = .error f → ∃ detail, f = .invalidArgument detail

/-- Reading undoes writing, and what cannot be written so is not read. -/
theorem decode_exact : Exact where
  carried _ _ := exists_encode_iff
  decode_form format _ _ hform := decode_eq_ok_iff.2 ⟨format, rfl, holds_encode hform⟩
  decode_iff _ _ _ := decode_eq_ok_iff
  refused_iff code raw := by
    constructor
    · rintro ⟨detail, hrefused⟩
      rcases malformed_or_decoded code raw with hmalformed | ⟨v, hread⟩
      · exact hmalformed
      · cases hread.symm.trans hrefused
    · exact Malformed.refused
  error code raw f hfails := by
    rcases malformed_or_decoded code raw with hmalformed | ⟨v, hread⟩
    · obtain ⟨detail, hrefused⟩ := hmalformed.refused
      exact ⟨detail, Except.error.inj (hfails.symm.trans hrefused)⟩
    · cases hread.symm.trans hfails

end Wire

end MeshBridge
