import MeshBridge.Address
import MeshBridge.Proofs.Text.Hex
/-!
The texts of addresses. An address is written as one to sixteen hexadecimal digits after an optional
mark (`Plain`). Of these texts each is read as the address it is written for, and besides them only
those are read that have a sign before at most fifteen digits (`Signed`); every other text is
refused by name (`parse_exact`). The sign takes the place of a digit: a text is read if what stands
after the mark is no longer than sixteen bytes, and digits and signs are one byte each.
-/

set_option autoImplicit false
set_option relaxedAutoImplicit false

namespace MeshBridge

/-! ### Lengths in bytes -/

theorem utf8ByteSize_ofList (cs : List Char) :
    (String.ofList cs).utf8ByteSize = (cs.map Char.utf8Size).sum := by
  induction cs with
  | nil => rfl
  | cons c cs ih => simp [String.ofList_cons, ih]

/-- A text of characters of one byte each has as many bytes as characters. -/
theorem utf8ByteSize_of_single {cs : List Char} (h : ∀ c ∈ cs, c.utf8Size = 1) :
    (String.ofList cs).utf8ByteSize = cs.length := by
  have hsizes : cs.map Char.utf8Size = List.replicate cs.length 1 :=
    List.eq_replicate_iff.2 ⟨List.length_map .., by simpa using h⟩
  rw [utf8ByteSize_ofList, hsizes, List.sum_replicate_nat, Nat.mul_one]

namespace Eui64

variable {text : String} {a : Eui64} {body digits : List Char} {n : Nat}

/-! ### Marks -/

/-- What may stand before the digits. -/
def marks : List (List Char) := [[], ['0', 'x'], ['0', 'X']]

theorem exists_mark (cs : List Char) : ∃ mark ∈ marks, cs = mark ++ stripMark cs := by
  unfold stripMark
  split
  · exact ⟨['0', 'x'], by decide, rfl⟩
  · exact ⟨['0', 'X'], by decide, rfl⟩
  · exact ⟨[], by decide, rfl⟩

/-- A mark is taken off a text that does not go on with another one. -/
theorem stripMark_append {mark : List Char} (hmark : mark ∈ marks) (hx : 'x' ∉ body)
    (hX : 'X' ∉ body) : stripMark (mark ++ body) = body := by
  simp only [marks, List.mem_cons, List.not_mem_nil, or_false] at hmark
  rcases hmark with rfl | rfl | rfl
  · unfold stripMark
    split
    · next heq =>
      subst heq
      simp at hx
    · next heq =>
      subst heq
      simp at hX
    · rfl
  · rfl
  · rfl

/-! ### Numerals -/

/-- What is read after a mark: a numeral, before which a sign may stand. -/
def SignedNumeral (body : List Char) (n : Nat) : Prop :=
  Hex.Numeral body n ∨ ∃ digits, body = '+' :: digits ∧ Hex.Numeral digits n

theorem value?_of_some_digit :
    (if digits.isEmpty then none else Hex.value? digits) = some n ↔ Hex.Numeral digits n := by
  cases digits with
  | nil =>
    constructor
    · nofun
    · exact fun h ↦ absurd rfl h.ne_nil
  | cons c rest => exact Hex.value?_eq_some_iff (List.cons_ne_nil c rest)

theorem numeral?_eq_some_iff : numeral? body = some n ↔ SignedNumeral body n := by
  unfold numeral? SignedNumeral
  split
  · next digits =>
    rw [value?_of_some_digit]
    constructor
    · exact fun h ↦ .inr ⟨digits, rfl, h⟩
    · rintro (h | ⟨others, hsame, h⟩)
      · exact absurd List.mem_cons_self (h.notMem (c := '+') rfl)
      · cases hsame
        exact h
  · next hsign =>
    rw [value?_of_some_digit]
    constructor
    · exact .inl
    · rintro (h | ⟨digits, rfl, h⟩)
      · exact h
      · exact absurd rfl (hsign digits)

namespace SignedNumeral

theorem utf8ByteSize_eq (h : SignedNumeral body n) :
    (String.ofList body).utf8ByteSize = body.length := by
  refine utf8ByteSize_of_single ?_
  rcases h with h | ⟨digits, rfl, h⟩
  · exact h.forall_mem Hex.utf8Size_digit
  · exact List.forall_mem_cons.2 ⟨rfl, h.forall_mem Hex.utf8Size_digit⟩

theorem notMem {c : Char} (h : SignedNumeral body n) (hsign : '+' ≠ c)
    (hc : Hex.digitValue? c = none) : c ∉ body := by
  rcases h with h | ⟨digits, rfl, h⟩
  · exact h.notMem hc
  · exact List.not_mem_cons_of_ne_of_not_mem hsign.symm (h.notMem hc)

theorem stripMark_append (h : SignedNumeral body n) {mark : List Char} (hmark : mark ∈ marks) :
    stripMark (mark ++ body) = body :=
  Eui64.stripMark_append hmark (h.notMem (by decide) rfl) (h.notMem (by decide) rfl)

/-- Sixteen digits are no more than a word of 64 bits holds. -/
theorem toNat_toUInt64 (h : SignedNumeral body n) (hlength : body.length ≤ 16) :
    n.toUInt64.toNat = n := by
  refine Nat.mod_eq_of_lt ?_
  rcases h with h | ⟨digits, rfl, h⟩
  · exact Nat.lt_of_lt_of_le h.lt (Nat.pow_le_pow_right Nat.succ_pos' hlength)
  · have hfewer : digits.length ≤ 16 := Nat.le_of_succ_le hlength
    exact Nat.lt_of_lt_of_le h.lt (Nat.pow_le_pow_right Nat.succ_pos' hfewer)

end SignedNumeral

/-! ### Texts -/

/-- A text from which an address is read: a mark, and up to sixteen characters that are a numeral
with or without a sign. -/
def Written (text : String) (a : Eui64) : Prop :=
  ∃ mark ∈ marks, ∃ body, text.toList = mark ++ body ∧ body.length ≤ 16 ∧
    SignedNumeral body a.value.toNat

/-- The fault of a text that is no address. -/
def noAddress (text : String) : Fault := .invalidArgument ("bad EUI-64: " ++ text)

theorem parse_of_written (h : Written text a) : parse text = .ok a := by
  obtain ⟨mark, hmark, body, htext, hlength, hbody⟩ := h
  have hread := numeral?_eq_some_iff.2 hbody
  have hshort : ¬ 16 < (String.ofList body).utf8ByteSize := by
    rw [hbody.utf8ByteSize_eq]
    exact Nat.not_lt_of_le hlength
  unfold parse
  simp only [htext, hbody.stripMark_append hmark, if_neg hshort, hread]
  exact congrArg (fun n ↦ Except.ok (mk n)) UInt64.ofNat_toNat

/-- A text is read as it is written, or refused by name. -/
theorem parse_cases (text : String) :
    (∃ a, parse text = .ok a ∧ Written text a) ∨ parse text = .error (noAddress text) := by
  unfold parse
  dsimp only
  split_ifs with hlong
  · exact .inr rfl
  · split
    · next n hread =>
      have hbody := numeral?_eq_some_iff.1 hread
      have hlength : (stripMark text.toList).length ≤ 16 := by
        rw [← hbody.utf8ByteSize_eq]
        exact Nat.le_of_not_lt hlong
      obtain ⟨mark, hmark, htext⟩ := exists_mark text.toList
      refine .inl ⟨_, rfl, mark, hmark, _, htext, hlength, ?_⟩
      rw [hbody.toNat_toUInt64 hlength]
      exact hbody
    · exact .inr rfl

theorem parse_eq_ok_iff : parse text = .ok a ↔ Written text a := by
  refine ⟨fun h ↦ ?_, parse_of_written⟩
  rcases parse_cases text with ⟨b, hread, hwritten⟩ | hrefused
  · rw [hread] at h
    cases h
    exact hwritten
  · rw [hrefused] at h
    cases h

theorem parse_eq_error_iff {f : Fault} :
    parse text = .error f ↔ f = noAddress text ∧ ∀ a, ¬ Written text a := by
  constructor
  · intro h
    rcases parse_cases text with ⟨b, hread, -⟩ | hrefused
    · rw [hread] at h
      cases h
    · refine ⟨?_, fun a ha ↦ ?_⟩
      · rw [hrefused] at h
        exact (Except.error.inj h).symm
      · rw [parse_of_written ha] at h
        cases h
  · rintro ⟨rfl, hnone⟩
    rcases parse_cases text with ⟨b, -, hwritten⟩ | hrefused
    · exact absurd hwritten (hnone b)
    · exact hrefused

/-! ### The grammar -/

/-- A text of one to sixteen digits after an optional mark. -/
def Plain (text : String) (a : Eui64) : Prop :=
  ∃ mark ∈ marks, ∃ digits, text.toList = mark ++ digits ∧ digits.length ≤ 16 ∧
    Hex.Numeral digits a.value.toNat

/-- A text of one to fifteen digits after an optional mark and a sign. -/
def Signed (text : String) (a : Eui64) : Prop :=
  ∃ mark ∈ marks, ∃ digits, text.toList = mark ++ '+' :: digits ∧ digits.length ≤ 15 ∧
    Hex.Numeral digits a.value.toNat

theorem written_iff : Written text a ↔ Plain text a ∨ Signed text a := by
  constructor
  · rintro ⟨mark, hmark, body, htext, hlength, hplain | ⟨digits, rfl, hdigits⟩⟩
    · exact .inl ⟨mark, hmark, body, htext, hlength, hplain⟩
    · exact .inr ⟨mark, hmark, digits, htext, Nat.le_of_succ_le_succ hlength, hdigits⟩
  · rintro (⟨mark, hmark, digits, htext, hlength, hdigits⟩ | h)
    · exact ⟨mark, hmark, digits, htext, hlength, .inl hdigits⟩
    · obtain ⟨mark, hmark, digits, htext, hlength, hdigits⟩ := h
      refine ⟨mark, hmark, '+' :: digits, htext, Nat.succ_le_succ hlength, ?_⟩
      exact .inr ⟨digits, rfl, hdigits⟩

theorem Plain.plus_notMem (h : Plain text a) : '+' ∉ text.toList := by
  obtain ⟨mark, hmark, digits, htext, -, hdigits⟩ := h
  have hnone : ∀ mark ∈ marks, '+' ∉ mark := by decide
  rw [htext, List.mem_append]
  exact fun hin ↦ hin.elim (hnone mark hmark) (hdigits.notMem rfl)

theorem Signed.plus_mem (h : Signed text a) : '+' ∈ text.toList := by
  obtain ⟨mark, -, digits, htext, -⟩ := h
  rw [htext]
  exact List.mem_append_right mark List.mem_cons_self

/-! ### The two texts of an address -/

theorem toList_toString (a : Eui64) :
    (toString a).toList = ['0', 'x'] ++ Hex.fixed .upper 16 a.value.toNat := by
  have htext : toString a = "0x" ++ String.ofList (Hex.fixed .upper 16 a.value.toNat) := rfl
  rw [htext, String.toList_append, String.toList_ofList, String.toList_ofList]

theorem toList_hex (a : Eui64) : a.hex.toList = Hex.fixed .lower 16 a.value.toNat :=
  String.toList_ofList

theorem length_hex (a : Eui64) : a.hex.toList.length = 16 := by
  rw [toList_hex, Hex.length_fixed]

theorem numeral_digits (letters : Hex.Letters) (a : Eui64) :
    Hex.Numeral (Hex.fixed letters 16 a.value.toNat) a.value.toNat := by
  have hword : a.value.toNat < Nat.pow 16 (15 + 1) := a.value.toNat_lt
  exact Hex.numeral_fixed letters hword

theorem plain_toString (a : Eui64) : Plain (toString a) a :=
  ⟨['0', 'x'], by decide, _, toList_toString a, (Hex.length_fixed .upper 16 _).le,
    numeral_digits .upper a⟩

theorem plain_hex (a : Eui64) : Plain a.hex a := by
  refine ⟨[], by decide, a.hex.toList, (List.nil_append _).symm, a.length_hex.le, ?_⟩
  rw [toList_hex]
  exact numeral_digits .lower a

/-- An address is read back from its text. -/
theorem parse_toString (a : Eui64) : parse (toString a) = .ok a :=
  parse_of_written (written_iff.2 (.inl a.plain_toString))

/-- An address is read back from its name in topics. -/
theorem parse_hex (a : Eui64) : parse a.hex = .ok a :=
  parse_of_written (written_iff.2 (.inl a.plain_hex))

/-- No two addresses have the same text. -/
theorem toString_inj {b : Eui64} : toString a = toString b ↔ a = b := by
  refine ⟨fun hsame ↦ ?_, congrArg _⟩
  have hread := parse_toString a
  rw [hsame, parse_toString] at hread
  exact (Except.ok.inj hread).symm

/-- No two addresses have the same digits. -/
theorem hex_inj {b : Eui64} : a.hex = b.hex ↔ a = b := by
  refine ⟨fun hsame ↦ ?_, congrArg _⟩
  have hread := parse_hex a
  rw [hsame, parse_hex] at hread
  exact (Except.ok.inj hread).symm

/-! ### What is read and what is refused -/

/-- A text that is read as an address is all on one level of a topic. -/
theorem slash_notMem_of_parse (h : parse text = .ok a) : '/' ∉ text.toList := by
  obtain ⟨mark, hmark, body, htext, -, hbody⟩ := parse_eq_ok_iff.1 h
  have hnone : ∀ mark ∈ marks, '/' ∉ mark := by decide
  rw [htext, List.mem_append]
  exact fun hin ↦ hin.elim (hnone mark hmark) (hbody.notMem (by decide) rfl)

/-- A text is read as the address it is plainly written for, and refused by name if there is
none. -/
structure ReadPlainly (text : String) : Prop where
  reads : ∀ a, parse text = .ok a ↔ Plain text a
  refuses : ∀ f, parse text = .error f ↔
    f = .invalidArgument ("bad EUI-64: " ++ text) ∧ ∀ a, ¬ Plain text a

/-- A text is read plainly unless it has a sign before its digits. A text with a sign is written for
no address and is read all the same; wherever the sign is in a text that is read, it is there. -/
theorem parse_exact (text : String) :
    (ReadPlainly text ↔ ∀ a, ¬ Signed text a) ∧
    (∀ a, parse text = .ok a ↔ Plain text a ∨ Signed text a) ∧
    (∀ f, parse text = .error f ↔
      f = .invalidArgument ("bad EUI-64: " ++ text) ∧ ∀ a, ¬ Plain text a ∧ ¬ Signed text a) ∧
    ∀ a, Signed text a ↔ parse text = .ok a ∧ '+' ∈ text.toList := by
  have hread (a : Eui64) : parse text = .ok a ↔ Plain text a ∨ Signed text a :=
    parse_eq_ok_iff.trans written_iff
  have hrefused (f : Fault) : parse text = .error f ↔
      f = .invalidArgument ("bad EUI-64: " ++ text) ∧ ∀ a, ¬ Plain text a ∧ ¬ Signed text a := by
    rw [parse_eq_error_iff]
    simp only [written_iff, not_or]
    rfl
  refine ⟨⟨fun h a ha ↦ ?_, fun hnone ↦ ?_⟩, hread, hrefused, fun a ↦ ?_⟩
  · have hplain := (h.reads a).1 ((hread a).2 (.inr ha))
    exact hplain.plus_notMem ha.plus_mem
  · exact ⟨by simpa [hnone] using hread, by simpa [hnone] using hrefused⟩
  · rw [hread]
    exact ⟨fun h ↦ ⟨.inr h, h.plus_mem⟩, fun ⟨h, hplus⟩ ↦ h.resolve_left (·.plus_notMem hplus)⟩

/-- A sign is read, although it is no part of an address. -/
example : parse "0x+1F" = .ok ⟨31⟩ := by decide

end Eui64

end MeshBridge
