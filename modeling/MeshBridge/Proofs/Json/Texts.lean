import MeshBridge.Json.Reader
import MeshBridge.Json.Writer
import MeshBridge.Proofs.Text.Hex
import MeshBridge.Proofs.Text.Utf8
/-!
Texts are read back from the JSON strings they are written as (`ofText?_compress_str`). Each
character is written as itself, with a short escape or by the number of its code unit. Whatever
stands behind it, it is read as pieces that stand for its bytes (`readsAs_escape`), and so is a
whole text.
-/

set_option autoImplicit false
set_option relaxedAutoImplicit false

namespace MeshBridge.Json

/-! ### Bodies of strings -/

section Bodies

variable {b mark e a c d : UInt8} {n : Nat} (rest : List UInt8)

/-- What is read of the rest of a body goes behind a piece. -/
def behind (piece : Piece) : List Piece × List UInt8 → List Piece × List UInt8 :=
  fun (pieces, rest) ↦ (piece :: pieces, rest)

theorem stringBody_plain (hb : 32 ≤ b) (hquote : b ≠ 34) (hslash : b ≠ 92) :
    stringBody (b :: rest) = (stringBody rest).map (behind (.byte b)) := by
  have hkept : ¬ (b < 32 ∨ b = 92) := not_or.2 ⟨UInt8.not_lt.2 hb, hslash⟩
  rw [stringBody, if_neg hkept]
  · rfl
  · exact hquote
  · exact fun _ _ _ _ _ h ↦ absurd h hslash
  · exact fun _ _ h ↦ absurd h hslash

theorem stringBody_short (h : shortEscape? mark = some e) :
    stringBody (92 :: mark :: rest) = (stringBody rest).map (behind (.byte e)) := by
  have hmark : mark ≠ 117 := by
    rintro rfl
    cases h
  rw [stringBody, h]
  · cases stringBody rest <;> rfl
  · exact fun _ _ _ _ _ hunit ↦ absurd hunit hmark

theorem stringBody_codeUnit (h : hexOf [a, b, c, d] = some n) :
    stringBody (92 :: 117 :: a :: b :: c :: d :: rest) =
      (stringBody rest).map (behind (.codeUnit n)) := by
  rw [stringBody, h]
  cases stringBody rest <;> rfl

end Bodies

/-- Bytes of a body that are read as pieces, which stand for the given bytes, whatever comes
behind. -/
structure ReadsAs (written : List UInt8) (pieces : List Piece) (bytes : List UInt8) : Prop where
  read : ∀ rest, stringBody (written ++ rest) =
    (stringBody rest).map fun (more, left) ↦ (pieces ++ more, left)
  meaning : ∀ more, bytesOfPieces (pieces ++ more) = (bytesOfPieces more).map (bytes ++ ·)

namespace ReadsAs

variable {written writtenMore bytes bytesMore : List UInt8} {pieces piecesMore : List Piece}

theorem nil : ReadsAs [] [] [] where
  read rest := by simp
  meaning more := by simp

theorem append (hfirst : ReadsAs written pieces bytes)
    (hrest : ReadsAs writtenMore piecesMore bytesMore) :
    ReadsAs (written ++ writtenMore) (pieces ++ piecesMore) (bytes ++ bytesMore) where
  read rest := by
    rw [List.append_assoc, hfirst.read, hrest.read, Option.map_map]
    simp [Function.comp_def]
  meaning more := by
    rw [List.append_assoc, hfirst.meaning, hrest.meaning, Option.map_map]
    simp [Function.comp_def]

theorem plain {b : UInt8} (hb : 32 ≤ b) (hquote : b ≠ 34) (hslash : b ≠ 92) :
    ReadsAs [b] [.byte b] [b] where
  read rest := stringBody_plain rest hb hquote hslash
  meaning _ := rfl

theorem plains (h : ∀ b ∈ bytes, 32 ≤ b ∧ b ≠ 34 ∧ b ≠ 92) :
    ReadsAs bytes (bytes.map .byte) bytes := by
  induction bytes with
  | nil => exact .nil
  | cons b rest ih =>
    obtain ⟨⟨hb, hquote, hslash⟩, hrest⟩ := List.forall_mem_cons.1 h
    exact (plain hb hquote hslash).append (ih hrest)

theorem short {mark e : UInt8} (h : shortEscape? mark = some e) :
    ReadsAs [92, mark] [.byte e] [e] where
  read rest := stringBody_short rest h
  meaning _ := rfl

/-- A code unit below the surrogates stands for the character with its number. -/
theorem codeUnit {a b c d : UInt8} {n : Nat} (h : hexOf [a, b, c, d] = some n) (hn : n < 0xD800) :
    ReadsAs [92, 117, a, b, c, d] [.codeUnit n] (utf8Of n) where
  read rest := stringBody_codeUnit rest h
  meaning more := by
    have hlow : ¬ (0xDC00 ≤ n ∧ n < 0xE000) := by omega
    have hhigh : ¬ (0xD800 ≤ n ∧ n < 0xDC00) := by omega
    rw [List.singleton_append, bytesOfPieces.eq_def]
    simp only [if_neg hlow, if_neg hhigh]

end ReadsAs

/-! ### Characters -/

section Characters

variable {c : Char} {cs : List Char}

theorem flatMap_of_single (h : ∀ c ∈ cs, c.utf8Size = 1) :
    cs.flatMap String.utf8EncodeChar = cs.map (·.val.toUInt8) := by
  induction cs with
  | nil => rfl
  | cons c cs ih =>
    obtain ⟨hc, hrest⟩ := List.forall_mem_cons.1 h
    rw [List.flatMap_cons, String.utf8EncodeChar_eq_singleton hc, ih hrest]
    rfl

/-- A character of one byte is read from this byte. -/
theorem ofNat_toUInt8 (h : c.utf8Size = 1) : Char.ofNat c.val.toUInt8.toNat = c := by
  have hsmall : c.val.toNat ≤ 127 := Char.utf8Size_eq_one_iff.1 h
  have hbyte : c.val.toUInt8.toNat = c.toNat :=
    Nat.mod_eq_of_lt (Nat.lt_of_le_of_lt hsmall (by decide))
  rw [hbyte, Char.ofNat_toNat]

/-- Digits are read from the bytes that they are written as. -/
theorem hexOf_of_single (h : ∀ c ∈ cs, c.utf8Size = 1) :
    hexOf (cs.map (·.val.toUInt8)) = Hex.value? cs := by
  have hchars : (cs.map (·.val.toUInt8)).map (fun b ↦ Char.ofNat b.toNat) = cs := by
    rw [List.map_map]
    exact (List.map_congr_left fun c hc ↦ ofNat_toUInt8 (h c hc)).trans (List.map_id cs)
  rw [hexOf, hchars]

/-- The bytes of a character that is not escaped have no meaning of their own in a string. -/
theorem plain_utf8EncodeChar (hcontrol : 32 ≤ c.toNat) (hquote : c ≠ '\x22') (hslash : c ≠ '\\') :
    ∀ b ∈ String.utf8EncodeChar c, 32 ≤ b ∧ b ≠ 34 ∧ b ≠ 92 := by
  have hquote : c.val.toNat ≠ 34 := fun h ↦ hquote (Char.toNat_inj.1 h)
  have hslash : c.val.toNat ≠ 92 := fun h ↦ hslash (Char.toNat_inj.1 h)
  have hcontrol : 32 ≤ c.val.toNat := hcontrol
  unfold String.utf8EncodeChar
  intro b hb
  dsimp only at hb
  generalize c.val.toNat = n at *
  simp only [UInt8.le_iff_toNat_le, ne_eq, ← UInt8.toNat_inj, UInt8.reduceToNat]
  split_ifs at hb <;> simp only [List.mem_cons, List.not_mem_nil, or_false] at hb
  · subst hb
    rw [UInt8.toNat_ofNat']
    omega
  · rcases hb with rfl | rfl <;> rw [UInt8.toNat_ofNat'] <;> omega
  · rcases hb with rfl | rfl | rfl <;> rw [UInt8.toNat_ofNat'] <;> omega
  · rcases hb with rfl | rfl | rfl | rfl <;> rw [UInt8.toNat_ofNat'] <;> omega

theorem readsAs_short {mark : Char} {m e : UInt8} (hmark : String.utf8EncodeChar mark = [m])
    (hc : String.utf8EncodeChar c = [e]) (h : shortEscape? m = some e) :
    ReadsAs (['\\', mark].flatMap String.utf8EncodeChar) [.byte e] (String.utf8EncodeChar c) := by
  have hwritten : ['\\', mark].flatMap String.utf8EncodeChar = [92, m] := by
    rw [List.flatMap_cons, List.flatMap_singleton, hmark]
    rfl
  rw [hwritten, hc]
  exact .short h

/-- A control that has no short escape is written by its number. -/
theorem readsAs_control (h : c.toNat < 32) :
    ReadsAs ((['\\', 'u'] ++ Hex.fixed .lower 4 c.toNat).flatMap String.utf8EncodeChar)
      [.codeUnit c.toNat] (String.utf8EncodeChar c) := by
  have hfits : c.toNat < Nat.pow 16 4 := Nat.lt_trans h (by decide)
  have hsingle := Hex.forall_mem_fixed (p := (·.utf8Size = 1)) (Hex.utf8Size_digit .lower) 4 c.toNat
  have hread : hexOf ((Hex.fixed .lower 4 c.toNat).map (·.val.toUInt8)) = some c.toNat := by
    rw [hexOf_of_single hsingle]
    exact Hex.value?_fixed .lower hfits
  have hmeaning : utf8Of c.toNat = String.utf8EncodeChar c := by
    rw [utf8Of, Utf8.encode_eq, Char.ofNat_toNat]
    simp
  rw [List.flatMap_append, flatMap_of_single hsingle, ← hmeaning]
  exact .codeUnit hread (by omega)

/-- A character is read from what it is written as. -/
theorem readsAs_escape (c : Char) :
    ∃ pieces, ReadsAs ((escape c).flatMap String.utf8EncodeChar) pieces
      (String.utf8EncodeChar c) := by
  unfold escape
  split_ifs with hquote hslash hback hfeed hline hreturn htab hcontrol
  · subst hquote
    exact ⟨_, readsAs_short (m := 34) rfl rfl rfl⟩
  · subst hslash
    exact ⟨_, readsAs_short rfl rfl rfl⟩
  · subst hback
    exact ⟨_, readsAs_short rfl rfl rfl⟩
  · subst hfeed
    exact ⟨_, readsAs_short rfl rfl rfl⟩
  · subst hline
    exact ⟨_, readsAs_short rfl rfl rfl⟩
  · subst hreturn
    exact ⟨_, readsAs_short rfl rfl rfl⟩
  · subst htab
    exact ⟨_, readsAs_short rfl rfl rfl⟩
  · exact ⟨_, readsAs_control hcontrol⟩
  · rw [List.flatMap_singleton]
    exact ⟨_, .plains (plain_utf8EncodeChar (Nat.le_of_not_lt hcontrol) hquote hslash)⟩

theorem readsAs_escaped (cs : List Char) :
    ∃ pieces, ReadsAs ((cs.flatMap escape).flatMap String.utf8EncodeChar) pieces
      (cs.flatMap String.utf8EncodeChar) := by
  induction cs with
  | nil => exact ⟨[], .nil⟩
  | cons c cs ih =>
    obtain ⟨first, hfirst⟩ := readsAs_escape c
    obtain ⟨rest, hrest⟩ := ih
    refine ⟨first ++ rest, ?_⟩
    rw [List.flatMap_cons, List.flatMap_append, List.flatMap_cons]
    exact hfirst.append hrest

end Characters

/-! ### Texts -/

/-- A text is read back from its JSON. -/
theorem ofText?_compress_str (text : String) :
    ofText? (compress (.str text)) = some (.str text) := by
  obtain ⟨pieces, hpieces⟩ := readsAs_escaped text.toList
  have hbytes : Utf8.encode (compress (.str text)) =
      34 :: ((text.toList.flatMap escape).flatMap String.utf8EncodeChar ++ [34]) := by
    show Utf8.encode (stringText text) = _
    rw [Utf8.encode_eq, stringText, String.toList_ofList, List.flatMap_cons, List.flatMap_append]
    rfl
  generalize (text.toList.flatMap escape).flatMap String.utf8EncodeChar = written at hpieces hbytes
  have hbody : stringBody (written ++ [34]) = some (pieces, []) := by
    rw [hpieces.read, stringBody]
    simp
  have hmeant : bytesOfPieces pieces = some (Utf8.encode text) := by
    have hmeaning := hpieces.meaning []
    rwa [List.append_nil, bytesOfPieces, Option.map_some, List.append_nil, ← Utf8.encode_eq]
      at hmeaning
  have htext : textOfPieces pieces = some text := by
    rw [textOfPieces, hmeant, Option.bind_some, Utf8.decode_encode]
    rfl
  have hopening : skipBlanks (34 :: (written ++ [34])) = 34 :: (written ++ [34]) := rfl
  unfold ofText? ofBytes?
  rw [hbytes, value]
  simp only [hopening, if_pos, hbody, Option.map_some, htext]
  rfl

end MeshBridge.Json
