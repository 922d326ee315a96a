import MeshBridge.Attribute.Json
import MeshBridge.Proofs.Address.Grammar
import MeshBridge.Proofs.Json.Texts
import MeshBridge.Proofs.Mqtt.Topics
/-!
Addresses survive every form in which they are written: their text, their name in topics, and their
JSON, all of which have sixteen digits up to the last word of 64 bits. So no two addresses share a
text, a topic or a JSON string (`read_back`).
-/

set_option autoImplicit false
set_option relaxedAutoImplicit false

namespace MeshBridge.Eui64

variable {a b : Eui64}

/-- Sixteen digits of an alphabet that stand for an address in base sixteen. -/
structure SpelledIn (alphabet digits : String) (a : Eui64) : Prop where
  length : digits.length = 16
  within : ∀ c ∈ digits.toList, c ∈ alphabet.toList
  value : Hex.Numeral digits.toList a.value.toNat

theorem spelledIn_of_fixed {letters : Hex.Letters} {alphabet digits : String}
    (halphabet : ∀ d < 16, Hex.digit letters d ∈ alphabet.toList)
    (hdigits : digits.toList = Hex.fixed letters 16 a.value.toNat) :
    SpelledIn alphabet digits a where
  length := by
    rw [← String.length_toList, hdigits, Hex.length_fixed]
  within := by
    rw [hdigits]
    exact Hex.forall_mem_fixed halphabet 16 _
  value := by
    rw [hdigits]
    exact numeral_digits letters a

/-- An address is read back from the text of its JSON. -/
theorem ofJson?_compress (a : Eui64) : (Json.ofText? a.toJson.compress).bind ofJson? = some a := by
  rw [toJson, Json.ofText?_compress_str, Option.bind_some, ofJson?, Json.text?, Option.bind_some,
    parse_toString]
  rfl

/-- No two addresses have the same JSON. -/
theorem compress_toJson_inj : a.toJson.compress = b.toJson.compress ↔ a = b := by
  refine ⟨fun hsame ↦ ?_, fun h ↦ h ▸ rfl⟩
  have hread := ofJson?_compress a
  rw [hsame, ofJson?_compress] at hread
  exact (Option.some.inj hread).symm

/-- An address is read back from its text, from its name in topics and from its JSON. The first two
have sixteen digits, the text after its mark. So different addresses differ in all three, and have
different topics below every base. -/
theorem read_back (a : Eui64) :
    parse (toString a) = .ok a ∧ parse a.hex = .ok a ∧
    (∃ digits, toString a = "0x" ++ digits ∧ SpelledIn "0123456789ABCDEF" digits a) ∧
    SpelledIn "0123456789abcdef" a.hex a ∧
    (Json.ofText? a.toJson.compress).bind ofJson? = some a ∧
    ∀ b, (toString a = toString b ↔ a = b) ∧ (a.hex = b.hex ↔ a = b) ∧
      (a.toJson.compress = b.toJson.compress ↔ a = b) ∧
      ∀ base, (Topic.availability base a = Topic.availability base b ↔ a = b) ∧
        ∀ c k : Capability,
          Topic.capabilityState base a c.name = Topic.capabilityState base b k.name ↔
            a = b ∧ c = k := by
  refine ⟨a.parse_toString, a.parse_hex, ⟨_, rfl, ?_⟩, ?_, a.ofJson?_compress, fun b ↦
    ⟨toString_inj, hex_inj, compress_toJson_inj, fun base ↦
      ⟨Topic.availability_inj base, fun c k ↦ Topic.capabilityState_inj base⟩⟩⟩
  · exact spelledIn_of_fixed (by decide) String.toList_ofList
  · exact spelledIn_of_fixed (by decide) a.toList_hex

end MeshBridge.Eui64
