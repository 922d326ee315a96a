import MeshBridge.Proofs.Correction.Doubling
import MeshBridge.Proofs.Gateway.Writing
/-!
Batteries that are reported in whole percent. Usually they are reported in halves of a percent, so
what is reported is halved when it is read, and a device that reports whole ones has an entry that
doubles what is read. But a number is halved before the entry gets to see it, and its last bit is
lost by then: what is read is the even number next to it towards zero, unless a clamp lets the
reported number pass and that one not. So a number is read as it was reported just if it is even or
stands at such an end of a range, and any other is read as its neighbor is (`confuses_of_doubles`).
-/

set_option autoImplicit false
set_option relaxedAutoImplicit false

namespace MeshBridge

/-- The numbers of all integer types fit into 33 bits. -/
theorem AttributeValue.bounds_of_int? {v : AttributeValue} {n : Int} (h : v.int? = some n) :
    -2 ^ 31 ≤ n ∧ n < 2 ^ 32 := by
  cases v with
  | u8 m => cases h; have hless := m.toNat_lt; omega
  | u16 m => cases h; have hless := m.toNat_lt; omega
  | u32 m => cases h; have hless := m.toNat_lt; omega
  | i8 m => cases h; have hlow := m.le_toInt; have hhigh := m.toInt_lt; omega
  | i16 m => cases h; have hlow := m.le_toInt; have hhigh := m.toInt_lt; omega
  | i32 m => cases h; have hlow := m.le_toInt; have hhigh := m.toInt_lt; omega
  | bool | string | array => cases h

variable {address : NetworkAddress} {endpoint : UInt8} {e : Correction.Entry} {n : ℤ}

/-- A report tells how many percent a battery holds, as a number of any integer type, and the entry
for the device lets that number pass. The byte for "not measured" is no such number. -/
structure Report.TellsPercent (r : Report) (address : NetworkAddress) (endpoint : UInt8)
    (e : Correction.Entry) (n : ℤ) : Prop where
  told : ∃ v, r.Tells address endpoint .battery v ∧ v.int? = some n ∧ v ≠ .u8 0xFF
  admitted : e.Admits .battery n

namespace Report.TellsPercent

variable {r : Report}

theorem bounds (h : r.TellsPercent address endpoint e n) : -2 ^ 31 ≤ n ∧ n < 2 ^ 32 := by
  obtain ⟨v, -, hnumber, -⟩ := h.told
  exact AttributeValue.bounds_of_int? hnumber

/-- What is left of the number fits into a word. -/
theorem toInt_evened (h : r.TellsPercent address endpoint e n) :
    (Int64.ofInt (e.evened .battery n)).toInt = e.evened .battery n := by
  have hbounds := h.bounds
  have hnear := e.evened_near .battery n
  exact Int64.toInt_ofInt_of_le (by omega) (by omega)

end Report.TellsPercent

namespace Coordinator

variable {ρ σ : Type} {c : Coordinator ρ σ} {target : Target}

/-- What is read of the battery after a report of it. -/
structure ReadsPercent (s : Step ρ σ Unit) (target : Target) (n : ℤ) : Prop where
  result : s.result = .ok ()
  read : s.after.read target .battery = .ok (some (.int (Int64.ofInt n)))

/-- Assumes: a proper cache, and an entry that doubles the numbers of the battery. -/
theorem Hears.readsPercent (hhears : c.Hears target.device address) (h : c.cache.Proper)
    (hentry : c.correction? target.device = some e) (hdoubles : e.Doubles .battery) {r : Report}
    (hpercent : r.TellsPercent address target.endpoint e n) (now : Moment) :
    ReadsPercent (c.report now r) target (e.evened .battery n) := by
  obtain ⟨v, htells, hnumber, hmeasured⟩ := hpercent.told
  have hbounds := hpercent.bounds
  have hkept : ¬ c.Drops target.device .battery := by
    rintro ⟨other, hother, hdrops⟩
    cases hentry.symm.trans hother
    exact hdoubles.heard hdrops
  have hhalf : Capability.battery.ofAttribute v = some (.int (Int64.ofInt (n.tdiv 2))) := by
    rw [Capability.ofAttribute, if_neg hmeasured, hnumber, Option.map_some]
  obtain ⟨hresult, hread⟩ := hhears.read_report h htells hkept now
  refine ⟨hresult, ?_⟩
  rw [hread, hhalf, Option.map_some, revised, actionsOn, hentry, Option.elim_some,
    hdoubles.revise_half rfl hpercent.admitted (by omega) (by omega)]

/-- How the numbers of percent that a device reports are read. -/
structure Confuses (c : Coordinator ρ σ) (target : Target) (address : NetworkAddress)
    (e : Correction.Entry) : Prop where
  /-- Each is read, without its last bit unless a clamp brings that back. -/
  reads : ∀ r n, r.TellsPercent address target.endpoint e n → ∀ now,
    ReadsPercent (c.report now r) target (e.evened .battery n)
  /-- Those that are read as they were reported. -/
  restored_iff : ∀ r n, r.TellsPercent address target.endpoint e n → ∀ now,
    ReadsPercent (c.report now r) target n ↔ 2 ∣ n ∨ ¬ e.Admits .battery (2 * n.tdiv 2)
  /-- Those that are read as one. -/
  same_iff : ∀ r r' n n', r.TellsPercent address target.endpoint e n →
    r'.TellsPercent address target.endpoint e n' → ∀ now now',
      (c.report now' r').after.read target .battery = (c.report now r).after.read target .battery ↔
        n' = n ∨ n'.tdiv 2 = n.tdiv 2 ∧ e.Admits .battery (2 * n.tdiv 2)

variable [Radio ρ] [KeyValueStore σ] {others : Registry → Registry → Prop} {config : AdapterConfig}
  {corrections : CorrectionTable} {h : History ρ σ}

/-- Whatever the clamps, and of whatever type the numbers: which ones are restored, and which are
taken for each other. -/
theorem confuses_of_doubles (hpast : Past others config corrections c h)
    (hhears : c.Hears target.device address) (hentry : c.correction? target.device = some e)
    (hdoubles : e.Doubles .battery) : Confuses c target address e := by
  have hreads (r : Report) (n : ℤ) (hpercent : r.TellsPercent address target.endpoint e n)
      (now : Moment) : ReadsPercent (c.report now r) target (e.evened .battery n) :=
    hhears.readsPercent hpast.proper.1 hentry hdoubles hpercent now
  have hsame (a b : Int64) :
      (.ok (some (.int a)) : Except Fault (Option CapabilityValue)) = .ok (some (.int b)) ↔
        a.toInt = b.toInt := by
    simp [Int64.toInt_inj]
  refine ⟨hreads, ?_, ?_⟩
  · intro r n hpercent now
    have hbounds := hpercent.bounds
    have hread := hreads r n hpercent now
    have hword : (Int64.ofInt n).toInt = n := Int64.toInt_ofInt_of_le (by omega) (by omega)
    rw [← e.evened_eq_iff]
    constructor
    · intro hrestored
      have hequal := (hsame _ _).1 (hread.read.symm.trans hrestored.read)
      rwa [hpercent.toInt_evened, hword] at hequal
    · intro hequal
      rwa [hequal] at hread
  · intro r r' n n' hpercent hpercent' now now'
    rw [(hreads r n hpercent now).read, (hreads r' n' hpercent' now').read, hsame,
      hpercent.toInt_evened, hpercent'.toInt_evened]
    exact Correction.Entry.evened_eq_evened_iff hpercent.admitted hpercent'.admitted

/-- The entry for a sensor that reports its battery in whole percent. -/
def wholePercent : Correction.Entry :=
  ⟨"_TZ3000_ji4araar", "TS0202", .exact,
    [.scaleNumeric .battery 2.0 0.0, .clampRange .battery 0 100]⟩

theorem doubles_wholePercent : wholePercent.Doubles .battery where
  doubled := ⟨[], 0.0, [.clampRange .battery 0 100], rfl, Or.inl rfl, by simp,
    by simp [Correction.Action.scales]⟩
  heard := by simp [wholePercent]

/-- A coordinator in reach of that sensor. -/
def percentSensor : Coordinator SimulatedRadio MemoryStore :=
  (Gateway.introduced .builtin [95, 84, 90, 51, 48, 48, 48, 95, 106, 105, 52, 97, 114, 97, 97, 114]
    [84, 83, 48, 50, 48, 50]).coordinator

/-- Half of 74 is 37, and so is half of 75 once its end is cut off: whichever of them the sensor
reports, 74 are read. -/
theorem confuses_of_doubles_percentSensor :
    (percentSensor.report ⟨9, 0⟩ (.byte 0x1234 1 .battery 74)).after.read ⟨⟨7⟩, 1⟩ .battery =
        .ok (some (.int 74)) ∧
      (percentSensor.report ⟨9, 0⟩ (.byte 0x1234 1 .battery 75)).after.read ⟨⟨7⟩, 1⟩ .battery =
        .ok (some (.int 74)) := by
  obtain ⟨h, hpast⟩ := Gateway.past_introduced .builtin
    [95, 84, 90, 51, 48, 48, 48, 95, 106, 105, 52, 97, 114, 97, 97, 114] [84, 83, 48, 50, 48, 50]
  have hhears : percentSensor.Hears ⟨7⟩ 0x1234 := ⟨by decide, by decide, by decide⟩
  have hentry : percentSensor.correction? ⟨7⟩ = some wholePercent := by decide
  have hconfuses : Confuses percentSensor ⟨⟨7⟩, 1⟩ 0x1234 wholePercent :=
    confuses_of_doubles hpast hhears hentry doubles_wholePercent
  have hpercent (n : UInt8) (hmeasured : n ≠ 0xFF)
      (hadmits : wholePercent.Admits .battery n.toNat) :
      (Report.byte 0x1234 1 .battery n).TellsPercent 0x1234 1 wholePercent n.toNat :=
    ⟨⟨.u8 n, Report.tells_byte _ _ _ _, rfl, by simpa using hmeasured⟩, hadmits⟩
  have heven := hpercent 74 (by decide) (by decide)
  have hodd := hpercent 75 (by decide) (by decide)
  have hread := ((hconfuses.restored_iff _ _ heven ⟨9, 0⟩).2 (Or.inl (by decide))).read
  exact ⟨hread, ((hconfuses.same_iff _ _ _ _ heven hodd ⟨9, 0⟩ ⟨9, 0⟩).2
    (Or.inr ⟨by decide, by decide⟩)).trans hread⟩

end Coordinator

end MeshBridge
