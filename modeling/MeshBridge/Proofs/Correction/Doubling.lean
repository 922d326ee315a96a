import MeshBridge.Proofs.Correction.Chains
import MeshBridge.Proofs.Decimal.Whole
/-!
Halves that are doubled again. A device may report in whole units what is usually reported in halves
of them; the half that is read of each number is doubled by the entry for such a device, and may be
clamped after that. But the half of an odd number is cut off to a whole one, and doubling does not
bring that back: what is left is the even number next to the reported one, towards zero, unless a
clamp that lets the reported number pass does not let that one pass (`Entry.evened`). Then the clamp
makes the reported number of it. So exactly the even numbers and those at such an end of a range are
restored (`Entry.evened_eq_iff`), and others are taken for their neighbors
(`Entry.evened_eq_evened_iff`).
-/

set_option autoImplicit false
set_option relaxedAutoImplicit false

namespace MeshBridge.Correction

variable {c : Capability} {actions : List Action} {n m : ℤ}

/-- Halves are cut off towards zero. -/
theorem tdiv_two_cases (n : ℤ) : 0 ≤ n ∧ n.tdiv 2 = n / 2 ∨ n < 0 ∧ n.tdiv 2 = -(-n / 2) := by
  rcases lt_or_ge n 0 with hneg | hpos
  · refine Or.inr ⟨hneg, ?_⟩
    rw [← Int.tdiv_eq_ediv_of_nonneg (by omega), Int.neg_tdiv, Int.neg_neg]
  · exact Or.inl ⟨hpos, Int.tdiv_eq_ediv_of_nonneg hpos⟩

namespace Action

/-- An action lets a number pass: if it is a clamp, the number lies in its range. -/
def Admits (n : ℤ) : Action → Prop
  | clampRange _ low high => low.toInt ≤ n ∧ n ≤ high.toInt
  | _ => True

instance (n : ℤ) : (a : Action) → Decidable (a.Admits n)
  | clampRange _ low high => inferInstanceAs (Decidable (low.toInt ≤ n ∧ n ≤ high.toInt))
  | invertBoolean .. | scaleNumeric .. | remapAttribute .. | overrideReporting ..
  | ignoreSpurious _ => inferInstanceAs (Decidable True)

theorem admits_of_still {a : Action} (h : a.moves = false) (n : ℤ) : a.Admits n := by
  cases a with
  | clampRange | scaleNumeric => cases h
  | _ => trivial

/-- A number that does not pass, next to one that does, becomes that one. -/
theorem revise_near {a : Action} (ha : a.scales = false) {x k : Int64} (hk : a.Admits k.toInt)
    (hbelow : k.toInt ≤ x.toInt + 1) (habove : x.toInt ≤ k.toInt + 1) :
    a.revise c (.int x) = .int (if a.Admits x.toInt then x else k) := by
  cases a with
  | clampRange target low high =>
    have hlow := low.toInt_toInt64
    have hhigh := high.toInt_toInt64
    have hpasses : low.toInt ≤ k.toInt ∧ k.toInt ≤ high.toInt := hk
    refine congrArg CapabilityValue.int (Int64.toInt_inj.1 ?_)
    rw [toInt_max, toInt_min, hlow, hhigh]
    split_ifs with hx
    · have hstays : low.toInt ≤ x.toInt ∧ x.toInt ≤ high.toInt := hx
      omega
    · have hmoves : ¬ (low.toInt ≤ x.toInt ∧ x.toInt ≤ high.toInt) := hx
      omega
  | scaleNumeric => cases ha
  | _ => rfl

end Action

/-- By induction on the actions. The first clamp that a number does not pass makes its neighbor of
it, which passes all that are left. -/
theorem foldl_revise_near {k : Int64} (hscales : ∀ a ∈ actions, a.scales = false)
    (hk : ∀ a ∈ actions, a.Admits k.toInt) {x : Int64} (hbelow : k.toInt ≤ x.toInt + 1)
    (habove : x.toInt ≤ k.toInt + 1) :
    actions.foldl (Action.revise c) (.int x) =
      .int (if ∀ a ∈ actions, a.Admits x.toInt then x else k) := by
  induction actions generalizing x with
  | nil => simp
  | cons a rest ih =>
    obtain ⟨hscale, hscales⟩ := List.forall_mem_cons.1 hscales
    obtain ⟨hfirst, hrest⟩ := List.forall_mem_cons.1 hk
    rw [List.foldl_cons, Action.revise_near hscale hfirst hbelow habove]
    by_cases hx : a.Admits x.toInt
    · rw [if_pos hx, ih hscales hrest hbelow habove]
      simp only [List.forall_mem_cons, hx, true_and]
    · rw [if_neg hx, ih hscales hrest (by omega) (by omega), if_pos hrest,
        if_neg fun hall ↦ hx (hall a List.mem_cons_self)]

/-- Small numbers are doubled as integers are, though they are scaled as fractions. -/
theorem revise_double (hkind : c.kind = .integer) {offset : Float} (hoffset : IsWhole offset 0)
    {x : Int64} (hsmall : x.toInt.natAbs < 2 ^ 52) :
    (Action.scaleNumeric c 2.0 offset).revise c (.int x) = .int (Int64.ofInt (x.toInt * 2)) := by
  have hdouble := ((IsWhole.ofInt (n := x.toInt) (by omega)).mul_two hsmall).add_zero hoffset
  rw [Action.revise, scale, hkind]
  exact congrArg CapabilityValue.int hdouble.roundInt64

namespace Entry

/-- An entry doubles the numbers of a capability: just one action scales them, by two, and adds
nothing. They are not clamped before that, but they may be after it. -/
structure Doubles (e : Entry) (c : Capability) : Prop where
  doubled : ∃ before offset after,
    e.actionsOn c = before ++ .scaleNumeric c 2.0 offset :: after ∧
      (offset = 0.0 ∨ offset = -0.0) ∧ (∀ a ∈ before, a.moves = false) ∧
        ∀ a ∈ after, a.scales = false
  heard : .ignoreSpurious c ∉ e.actions

/-- A number lies in all ranges that an entry clamps a capability to. -/
def Admits (e : Entry) (c : Capability) (n : ℤ) : Prop := ∀ a ∈ e.actionsOn c, a.Admits n

instance (e : Entry) (c : Capability) (n : ℤ) : Decidable (e.Admits c n) :=
  inferInstanceAs (Decidable (∀ a ∈ e.actionsOn c, a.Admits n))

/-- What is left of a number that is halved and doubled again. -/
def evened (e : Entry) (c : Capability) (n : ℤ) : ℤ :=
  if e.Admits c (2 * n.tdiv 2) then 2 * n.tdiv 2 else n

theorem evened_near (e : Entry) (c : Capability) (n : ℤ) :
    n - 1 ≤ e.evened c n ∧ e.evened c n ≤ n + 1 := by
  have hhalf := tdiv_two_cases n
  rw [evened]
  split_ifs <;> omega

/-- A number is restored just if it is even or a clamp holds it off its neighbor. -/
theorem evened_eq_iff (e : Entry) (c : Capability) (n : ℤ) :
    e.evened c n = n ↔ 2 ∣ n ∨ ¬ e.Admits c (2 * n.tdiv 2) := by
  have hhalf := tdiv_two_cases n
  rw [evened]
  split_ifs with hpasses
  · simp only [hpasses, not_true_eq_false, or_false]
    omega
  · simp [hpasses]

/-- Numbers are taken for each other just if they have one half, and twice that half passes. -/
theorem evened_eq_evened_iff {e : Entry} (hn : e.Admits c n) (hm : e.Admits c m) :
    e.evened c m = e.evened c n ↔
      m = n ∨ m.tdiv 2 = n.tdiv 2 ∧ e.Admits c (2 * n.tdiv 2) := by
  have hhalf := tdiv_two_cases n
  have hhalf' := tdiv_two_cases m
  have hodd {n : ℤ} (hn : e.Admits c n) (hpasses : ¬ e.Admits c (2 * n.tdiv 2)) :
      2 * n.tdiv 2 ≠ n := fun hsame ↦ hpasses (hsame.symm ▸ hn)
  by_cases hsame : m.tdiv 2 = n.tdiv 2
  · rw [evened, evened, hsame]
    split_ifs with hpasses <;> simp [hpasses]
  · simp only [hsame, false_and, or_false]
    rw [evened, evened]
    split_ifs with hpasses hpasses' hpasses'
    · omega
    · have hnotEven := hodd hn hpasses'
      omega
    · have hnotEven := hodd hm hpasses
      omega
    · rfl

/-- Only the actions after the scaling hold numbers off. -/
theorem admits_iff_of_split {e : Entry} {before after : List Action} {multiplier offset : Float}
    (hactions : e.actionsOn c = before ++ .scaleNumeric c multiplier offset :: after)
    (hstill : ∀ a ∈ before, a.moves = false) (n : ℤ) :
    e.Admits c n ↔ ∀ a ∈ after, a.Admits n := by
  have hbefore : ∀ a ∈ before, a.Admits n := fun a ha ↦ Action.admits_of_still (hstill a ha) n
  have hscale : (Action.scaleNumeric c multiplier offset).Admits n := trivial
  rw [Admits, hactions, List.forall_mem_append, List.forall_mem_cons]
  exact ⟨fun hall ↦ hall.2.2, fun hall ↦ ⟨hbefore, hscale, hall⟩⟩

/-- Assumes: a number that is small enough and lies in all ranges. Its half is doubled exactly, and
what that gives is next to it, so the clamps make one of the two of it. -/
theorem Doubles.revise_half {e : Entry} (h : e.Doubles c) (hkind : c.kind = .integer)
    (hadmits : e.Admits c n) (hlow : -2 ^ 52 ≤ n) (hhigh : n ≤ 2 ^ 52) :
    (e.actionsOn c).foldl (Action.revise c) (.int (Int64.ofInt (n.tdiv 2))) =
      .int (Int64.ofInt (e.evened c n)) := by
  obtain ⟨before, offset, after, hactions, hoffset, hstill, hscales⟩ := h.doubled
  have hzero : IsWhole offset 0 := by
    rcases hoffset with rfl | rfl
    · exact .zero
    · exact IsWhole.zero.neg
  have hcases := tdiv_two_cases n
  have hhalf : (Int64.ofInt (n.tdiv 2)).toInt = n.tdiv 2 :=
    Int64.toInt_ofInt_of_le (by omega) (by omega)
  have htwice : (Int64.ofInt (n.tdiv 2 * 2)).toInt = n.tdiv 2 * 2 :=
    Int64.toInt_ofInt_of_le (by omega) (by omega)
  have hsame : (Int64.ofInt n).toInt = n := Int64.toInt_ofInt_of_le (by omega) (by omega)
  have hpasses (k : ℤ) := admits_iff_of_split hactions hstill k
  have hnear : after.foldl (Action.revise c) (.int (Int64.ofInt (n.tdiv 2 * 2))) = _ :=
    foldl_revise_near hscales (by rw [hsame]; exact (hpasses n).1 hadmits) (by omega) (by omega)
  rw [hactions, List.foldl_append, foldl_revise_int_of_still hstill, List.foldl_cons,
    revise_double hkind hzero (by omega), hhalf, hnear, htwice, evened]
  simp only [hpasses, Int.mul_comm 2]
  split_ifs <;> rfl

end Entry

end MeshBridge.Correction
