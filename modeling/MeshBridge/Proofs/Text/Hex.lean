import MeshBridge.Text.Hex
import Mathlib.Data.List.Induction
import Mathlib.Tactic.IntervalCases
import Mathlib.Tactic.SplitIfs
/-!
The grammar of hexadecimal numerals. A numeral is a digit, or a numeral and one more digit, and
stands for a number in base sixteen (`Numeral`). This is what is read of at least one character
(`value?_eq_some_iff`), and the digits of a fixed width are such a numeral (`numeral_fixed`).
-/

set_option autoImplicit false
set_option relaxedAutoImplicit false

namespace MeshBridge.Hex

/-- A character is the digit for a number, with a letter of either case from ten on. -/
def Denotes (c : Char) (d : Nat) : Prop :=
  "0123456789abcdef".toList[d]? = some c ∨ "0123456789ABCDEF".toList[d]? = some c

/-- A numeral and the number that it stands for. -/
inductive Numeral : List Char → Nat → Prop
  | single {c : Char} {d : Nat} (hd : Denotes c d) : Numeral [c] d
  | next {cs : List Char} {c : Char} {n d : Nat} (h : Numeral cs n) (hd : Denotes c d) :
      Numeral (cs ++ [c]) (n * 16 + d)

/-! ### Digits -/

variable {c : Char} {cs : List Char} {d n : Nat}

theorem denotes_iff : Denotes c d ↔ d < 16 ∧ ∃ letters, digit letters d = c := by
  constructor
  · intro h
    have hbound : d < 16 := by
      rcases h with hlower | hupper
      · exact (List.getElem?_eq_some_iff.1 hlower).1
      · exact (List.getElem?_eq_some_iff.1 hupper).1
    refine ⟨hbound, ?_⟩
    rcases h with hlower | hupper
    · refine ⟨.lower, Option.some.inj (Eq.trans ?_ hlower)⟩
      interval_cases d <;> rfl
    · refine ⟨.upper, Option.some.inj (Eq.trans ?_ hupper)⟩
      interval_cases d <;> rfl
  · rintro ⟨hbound, letters, rfl⟩
    cases letters
    · refine .inl ?_
      interval_cases d <;> rfl
    · refine .inr ?_
      interval_cases d <;> rfl

theorem utf8Size_digit (letters : Letters) : ∀ d < 16, (digit letters d).utf8Size = 1 := by
  cases letters <;> decide

theorem digit_of_digitValue? (h : digitValue? c = some d) :
    d < 16 ∧ ∃ letters, digit letters d = c := by
  unfold digitValue? at h
  split_ifs at h with hdecimal hlower hupper
  · cases h
    refine ⟨by omega, .lower, ?_⟩
    have hcode : 48 + (c.toNat - 48) = c.toNat := by omega
    rw [digit, if_pos (by omega), hcode, Char.ofNat_toNat]
  · cases h
    refine ⟨by omega, .lower, ?_⟩
    have hcode : 87 + (c.toNat - 87) = c.toNat := by omega
    rw [digit, if_neg (by omega), hcode, Char.ofNat_toNat]
  · cases h
    refine ⟨by omega, .upper, ?_⟩
    have hcode : 55 + (c.toNat - 55) = c.toNat := by omega
    rw [digit, if_neg (by omega), hcode, Char.ofNat_toNat]

theorem digitValue?_eq_some_iff : digitValue? c = some d ↔ Denotes c d := by
  rw [denotes_iff]
  constructor
  · exact digit_of_digitValue?
  · rintro ⟨hbound, letters, rfl⟩
    exact digitValue?_digit letters hbound

/-! ### Numerals -/

theorem value?_concat (cs : List Char) (c : Char) :
    value? (cs ++ [c]) = (value? cs).bind fun n ↦ (digitValue? c).map (n * 16 + ·) := by
  unfold value?
  rw [List.foldlM_append]
  refine congrArg _ (funext fun n ↦ ?_)
  exact bind_pure _

theorem value?_singleton (c : Char) : value? [c] = digitValue? c := by
  simp [value?]

/-- What is read of at least one character is the number of a numeral. By induction from the last
digit on, as the numeral grows at its end. -/
theorem value?_eq_some_iff (hcs : cs ≠ []) : value? cs = some n ↔ Numeral cs n := by
  constructor
  · intro h
    induction cs using List.reverseRecOn generalizing n with
    | nil => exact absurd rfl hcs
    | append_singleton cs c ih =>
      rw [value?_concat, Option.bind_eq_some_iff] at h
      obtain ⟨high, hhigh, hlow⟩ := h
      obtain ⟨d, hd, rfl⟩ := Option.map_eq_some_iff.1 hlow
      have hdigit := digitValue?_eq_some_iff.1 hd
      by_cases hfirst : cs = []
      · subst hfirst
        obtain rfl : 0 = high := Option.some.inj hhigh
        rw [Nat.zero_mul, Nat.zero_add]
        exact .single hdigit
      · exact .next (ih hfirst hhigh) hdigit
  · intro h
    induction h with
    | single hd =>
      rw [value?_singleton]
      exact digitValue?_eq_some_iff.2 hd
    | @next cs c n d h hd ih =>
      have hsome : cs ≠ [] := by cases h <;> simp
      rw [value?_concat, ih hsome, digitValue?_eq_some_iff.2 hd]
      rfl

namespace Numeral

theorem ne_nil (h : Numeral cs n) : cs ≠ [] := by
  cases h <;> simp

theorem lt (h : Numeral cs n) : n < 16 ^ cs.length := by
  induction h with
  | single hd => simpa using (denotes_iff.1 hd).1
  | next h hd ih =>
    have hd := (denotes_iff.1 hd).1
    rw [List.length_append, List.length_singleton, Nat.pow_succ]
    omega

/-- What holds of all digits holds of each character of a numeral. -/
theorem forall_mem {p : Char → Prop} (hp : ∀ letters, ∀ d < 16, p (digit letters d))
    (h : Numeral cs n) : ∀ c ∈ cs, p c := by
  have hdigit {c : Char} {d : Nat} (hd : Denotes c d) : p c := by
    obtain ⟨hbound, letters, rfl⟩ := denotes_iff.1 hd
    exact hp letters d hbound
  induction h with
  | single hd =>
    intro c hc
    rw [List.mem_singleton.1 hc]
    exact hdigit hd
  | next h hd ih =>
    intro c hc
    rcases List.mem_append.1 hc with hearlier | hlast
    · exact ih c hearlier
    · rw [List.mem_singleton.1 hlast]
      exact hdigit hd

/-- A character that is no digit is in no numeral. -/
theorem notMem (h : Numeral cs n) (hc : digitValue? c = none) : c ∉ cs := by
  intro hin
  refine h.forall_mem (p := (· ≠ c)) (fun letters d hd hsame ↦ ?_) c hin rfl
  rw [← hsame, digitValue?_digit letters hd] at hc
  cases hc

end Numeral

/-! ### Digits of a fixed width -/

/-- What holds of all digits with letters of one case holds of each character written with them. -/
theorem forall_mem_fixed {letters : Letters} {p : Char → Prop} (hp : ∀ d < 16, p (digit letters d))
    (width n : Nat) : ∀ c ∈ fixed letters width n, p c := by
  induction width generalizing n with
  | zero => nofun
  | succ width ih =>
    intro c hc
    rcases List.mem_append.1 hc with hhigh | hlow
    · exact ih (n / 16) c hhigh
    · rw [List.mem_singleton.1 hlow]
      exact hp _ (Nat.mod_lt n (by decide))

/-- The digits of a fixed width are a numeral of the number, if it fits. -/
theorem numeral_fixed (letters : Letters) {width : Nat} (h : n < Nat.pow 16 (width + 1)) :
    Numeral (fixed letters (width + 1) n) n := by
  have hsome : fixed letters (width + 1) n ≠ [] := by simp [fixed]
  exact (value?_eq_some_iff hsome).1 (value?_fixed letters h)

end MeshBridge.Hex
