import MeshBridge.Proofs.Text.Digits
import MeshBridge.Proofs.Toml.Texts
import Mathlib.Data.List.TakeWhile
import Mathlib.Tactic.SplitIfs
/-!
Integers and truth values are read back from the words they are written as (`bare_integer`,
`bare_boolean`). An integer is never taken for a date or a real number, as it has digits only behind
its first character (`isDigit_of_mem_tail_toString`). Whether a real number or a date is read back
is a condition on it (`Bare`). A word ends where a line, a list or a table goes on (`word_append`).
-/

set_option autoImplicit false
set_option relaxedAutoImplicit false

namespace MeshBridge.Toml

open Decimal (isDigit isDigit_eq isDigit_of_mem_toDigits head?_toDigits_ne)

/-! ### Decimal digits -/

theorem digits?_of_isDigit {cs : List Char} (hne : cs ≠ []) (hcs : ∀ c ∈ cs, isDigit c = true) :
    digits? isDigit cs = some cs := by
  fun_induction digits? isDigit cs with
  | case1 => exact absurd rfl hne
  | case2 c hc => rfl
  | case3 c hc => exact absurd (hcs c (by simp)) hc
  | case4 c rest hc ih => exact absurd (hcs '_' (by simp)) (by decide)
  | case5 c rest hc => exact absurd (hcs '_' (by simp)) (by decide)
  | case6 c rest hsingle hscore hc ih =>
    rw [ih (fun h ↦ hsingle h) fun d hd ↦ hcs d (List.mem_cons_of_mem c hd)]
    rfl
  | case7 c rest hsingle hscore hc => exact absurd (hcs c List.mem_cons_self) hc

theorem natOfBase_eq {cs : List Char} (hcs : ∀ c ∈ cs, isDigit c = true) (n : Nat) :
    cs.foldl (fun n c ↦ n * 10 + (Hex.digitValue? c).getD 0) n = Nat.ofDigitChars 10 cs n := by
  induction cs generalizing n with
  | nil => rfl
  | cons c cs ih =>
    have hc : 48 ≤ c.toNat ∧ c.toNat ≤ 57 := by simpa [isDigit] using hcs c List.mem_cons_self
    rw [List.foldl_cons, ih fun d hd ↦ hcs d (List.mem_cons_of_mem c hd), Nat.ofDigitChars_cons,
      Hex.digitValue?, if_pos hc, Nat.mul_comm]
    rfl

theorem natOfBase_toDigits (n : Nat) : natOfBase 10 (Nat.toDigits 10 n) = n := by
  rw [natOfBase, natOfBase_eq fun c ↦ isDigit_of_mem_toDigits, Nat.ofDigitChars_ten_toDigits]

theorem isStandard_toDigits (n : Nat) : isStandard (Nat.toDigits 10 n) = true := by
  rcases Nat.eq_zero_or_pos n with rfl | hpos
  · rfl
  · have hhead := head?_toDigits_ne hpos
    unfold isStandard
    split
    · next heq => exact absurd (congrArg List.head? heq) hhead
    · rfl

/-! ### Integers -/

/-- An integer is written as its digits, after a sign if it is negative. -/
theorem toList_toString_int (n : Int) :
    (toString n).toList = (if n < 0 then ['-'] else []) ++ Nat.toDigits 10 n.natAbs := by
  rw [Int.toString_eq_repr, Int.repr_eq_if]
  split_ifs with hnonneg hneg hneg
  · exact absurd hneg (not_lt.2 hnonneg)
  · rw [Nat.toList_repr, List.nil_append, show n.toNat = n.natAbs by omega]
  · rw [String.toList_append, Nat.toList_repr, show (-n).toNat = n.natAbs by omega]
    rfl
  · omega

theorem sign_toString (n : Int) :
    sign (toString n).toList = (decide (n < 0), Nat.toDigits 10 n.natAbs) := by
  rw [toList_toString_int]
  split_ifs with hneg
  · simp [sign, hneg]
  · rw [List.nil_append, sign.eq_def]
    split
    · next heq => exact absurd (isDigit_of_mem_toDigits (heq ▸ List.mem_cons_self)) (by decide)
    · next heq => exact absurd (isDigit_of_mem_toDigits (heq ▸ List.mem_cons_self)) (by decide)
    · simp [hneg]

/-- Behind its first character an integer has digits only. -/
theorem isDigit_of_mem_tail_toString {n : Int} {c : Char} (h : c ∈ (toString n).toList.tail) :
    isDigit c = true := by
  rw [toList_toString_int] at h
  split_ifs at h
  · exact isDigit_of_mem_toDigits h
  · exact isDigit_of_mem_toDigits (List.mem_of_mem_tail h)

theorem datetime?_toString (bounds : TimeBounds) (n : Int) :
    datetime? bounds (toString n).toList = none := by
  have hdigit (c : Char) (h : c ∈ (toString n).toList.tail) : isDigit c = true :=
    isDigit_of_mem_tail_toString h
  generalize (toString n).toList = word at hdigit
  have hdate : date? word = none := by
    unfold date?
    split
    · exact absurd (hdigit '-' (by simp)) (by decide)
    · rfl
  have htime : time? bounds word = none := by
    unfold time?
    split
    · exact absurd (hdigit ':' (by simp)) (by decide)
    · rfl
  rw [datetime?, hdate, htime]

theorem real?_toString (n : Int) : real? (toString n).toList = none := by
  have hdigits (c : Char) (h : c ∈ Nat.toDigits 10 n.natAbs) : isDigit c = true :=
    isDigit_of_mem_toDigits h
  rw [real?, sign_toString]
  generalize Nat.toDigits 10 n.natAbs = ds at hdigits
  have hinf : ds ≠ ['i', 'n', 'f'] := by
    rintro rfl
    exact absurd (hdigits 'i' (by simp)) (by decide)
  have hnan : ds ≠ ['n', 'a', 'n'] := by
    rintro rfl
    exact absurd (hdigits 'n' (by simp)) (by decide)
  have hrest : ds.dropWhile (fun c ↦ isDigit c || decide (c = '_')) = [] := by
    rw [List.dropWhile_eq_nil_iff]
    exact fun c hc ↦ by simp [hdigits c hc]
  simp only [if_neg hinf, if_neg hnan, hrest]
  cases digits? isDigit (ds.takeWhile fun c ↦ isDigit c || decide (c = '_')) <;> simp

theorem integer?_toString {n : Int} (hrange : inRange n = some n) :
    integer? (toString n).toList = some n := by
  have hdigit (c : Char) (h : c ∈ (toString n).toList.tail) : isDigit c = true :=
    isDigit_of_mem_tail_toString h
  have hsign := sign_toString n
  generalize (toString n).toList = word at hdigit hsign
  rw [integer?.eq_def]
  split
  · exact absurd (hdigit 'x' (by simp)) (by decide)
  · exact absurd (hdigit 'o' (by simp)) (by decide)
  · exact absurd (hdigit 'b' (by simp)) (by decide)
  · rw [hsign]
    have hread : digits? isDigit (Nat.toDigits 10 n.natAbs) = some (Nat.toDigits 10 n.natAbs) :=
      digits?_of_isDigit Nat.toDigits_ne_nil fun c ↦ isDigit_of_mem_toDigits
    have habs : (if n < 0 then -(n.natAbs : Int) else n.natAbs) = n := by split_ifs <;> omega
    simpa only [hread, Option.bind_eq_bind, Option.bind_some, isStandard_toDigits, if_true,
      natOfBase_toDigits, decide_eq_true_eq, habs] using hrange

theorem scalarOf?_toString {n : Int} (hrange : inRange n = some n) :
    scalarOf? (toString n).toList = some (.integer n) := by
  have htrue : (toString n).toList ≠ "true".toList := fun h ↦
    absurd (isDigit_of_mem_tail_toString (n := n) (c := 'r') (h ▸ by simp)) (by decide)
  have hfalse : (toString n).toList ≠ "false".toList := fun h ↦
    absurd (isDigit_of_mem_tail_toString (n := n) (c := 'a') (h ▸ by simp)) (by decide)
  rw [scalarOf?, if_neg htrue, if_neg hfalse, datetime?_toString, real?_toString,
    integer?_toString hrange]
  rfl

/-! ### Words -/

/-- What may stand behind a value in a line. -/
inductive Stop : List Char → Prop
  | lineEnd (rest : List Char) : Stop ('\n' :: rest)
  | comma (rest : List Char) : Stop (',' :: rest)
  | bracket (rest : List Char) : Stop (']' :: rest)
  | brace (rest : List Char) : Stop (' ' :: '\x7d' :: rest)

/-- A value that is written without quotes, as a word that gives it back. -/
structure Bare (v : Toml) : Prop where
  isWord : ∀ c ∈ (valueForm v).toList, isWordChar c = true
  read : scalarOf? (valueForm v).toList = some v

theorem bare_integer {n : Int} (hrange : inRange n = some n) : Bare (.integer n) where
  isWord c hc := by
    rw [valueForm, toList_toString_int, List.mem_append] at hc
    rcases hc with hsign | hdigit
    · split_ifs at hsign
      · obtain rfl := List.mem_singleton.1 hsign
        rfl
      · cases hsign
    · have halpha : c.isDigit = true := by rw [← isDigit_eq, isDigit_of_mem_toDigits hdigit]
      simp [isWordChar, Char.isAlphanum, halpha]
  read := scalarOf?_toString hrange

theorem bare_boolean (b : Bool) : Bare (.boolean b) where
  isWord := by
    have hletters : (toString b).toList.all isWordChar = true := by cases b <;> rfl
    exact List.all_eq_true.1 hletters
  read := by cases b <;> rfl

theorem Stop.head {rest : List Char} (h : Stop rest) {p : Char → Bool}
    (hp : p '\n' = false ∧ p ',' = false ∧ p ']' = false ∧ p ' ' = false) :
    ∀ c ∈ rest.head?, p c = false := by
  obtain ⟨hline, hcomma, hbracket, hblank⟩ := hp
  cases h <;> simpa

/-- A word ends where anything may follow a value. Even behind a date a blank begins no time there,
as a brace follows it. -/
theorem word_append {form rest : List Char} (hform : ∀ c ∈ form, isWordChar c = true)
    (hstop : Stop rest) : word (form ++ rest) = (form, rest) := by
  have hhead := hstop.head (p := isWordChar) (by decide)
  rw [word, takeWhile_append_stop hform hhead, dropWhile_append_stop hform hhead]
  cases hstop
  all_goals
    cases (date? form).any (·.2.isEmpty)
    · rfl
    · rfl

end MeshBridge.Toml
