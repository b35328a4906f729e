import DnsHealth.Number.Word
import DnsHealth.Signature.Window
import Mathlib.Data.Int.ModEq
import Mathlib.Algebra.Order.Group.Abs
import Mathlib.Algebra.Order.Group.Int

/-!
# Serial arithmetic of validity windows

A time field stands for the only moment that has its remainder and lies within half a turn of the
current time. So a moment that near is recovered from its remainder, wherever the turns begin and
end, and whole turns of the clock turn the window with it. The current time lies in the window if
the way from the inception to it is shorter than half a turn, and the way from it to the expiration
not longer. While the clock keeps to half the range of signed words of sixty-four bits, no step of
the computation leaves that range.
-/

namespace DnsHealth

/-- A moment that a time field can stand for at the current time. -/
structure StandsFor (field : UInt32) (now moment : Int) : Prop where
  /-- The field is the remainder of the moment. -/
  remainder : moment ≡ field.toNat [ZMOD serialModulus]
  /-- The moment is later than half a turn ago. -/
  after : now - serialHalfRange < moment
  /-- The moment is at most half a turn away. -/
  upTo : moment ≤ now + serialHalfRange

/-- A field stands for exactly one moment. -/
theorem unwrapSerial_eq_iff {field : UInt32} {now moment : Int} :
    unwrapSerial field now = moment ↔ StandsFor field now moment := by
  simp only [unwrapSerial, serialModulus, serialHalfRange, Int.ofNat_eq_natCast,
    Int.fdiv_eq_ediv_of_nonneg _ (show (0 : Int) ≤ 4294967296 by decide)]
  constructor
  · rintro rfl
    refine ⟨?_, ?_, ?_⟩
    · simp only [serialModulus, Int.ModEq]
      omega
    · simp only [serialHalfRange]
      omega
    · simp only [serialHalfRange]
      omega
  · rintro ⟨hremainder, hafter, hupTo⟩
    simp only [serialModulus, serialHalfRange, Int.ModEq] at hremainder hafter hupTo
    omega

/-- A field stands for the instant that is recovered from it. -/
theorem standsFor_unwrapSerial (field : UInt32) (now : Int) :
    StandsFor field now (unwrapSerial field now) :=
  unwrapSerial_eq_iff.mp rfl

/-- The remainder of a moment is congruent to it. -/
theorem modEq_toNat_ofInt (moment : Int) :
    moment ≡ (UInt32.ofInt moment).toNat [ZMOD serialModulus] := by
  simp only [UInt32.ofInt, UInt32.toNat_ofNat', Int.ModEq, serialModulus]
  omega

/-- A moment within half a turn is recovered from its remainder. -/
theorem unwrapSerial_ofInt {now moment : Int} (hafter : now - serialHalfRange < moment)
    (hupTo : moment ≤ now + serialHalfRange) : unwrapSerial (.ofInt moment) now = moment :=
  unwrapSerial_eq_iff.mpr ⟨modEq_toNat_ofInt moment, hafter, hupTo⟩

/-- Whole turns of the clock turn the moment with it. -/
theorem unwrapSerial_add_turns (field : UInt32) (now turns : Int) :
    unwrapSerial field (now + turns * serialModulus) =
      unwrapSerial field now + turns * serialModulus := by
  obtain ⟨hremainder, hafter, hupTo⟩ := standsFor_unwrapSerial field now
  refine unwrapSerial_eq_iff.mpr ⟨?_, by omega, by omega⟩
  exact (Int.add_mul_emod_self_right ..).trans hremainder

/-- A moment is not to come if the way from it to the current time is shorter than half a turn. -/
theorem unwrapSerial_le_iff {field : UInt32} {now : Int} :
    unwrapSerial field now ≤ now ↔ (now - field.toNat) % serialModulus < serialHalfRange := by
  obtain ⟨hremainder, hafter, hupTo⟩ := standsFor_unwrapSerial field now
  simp only [serialModulus, serialHalfRange, Int.ModEq] at *
  omega

/-- A moment is not past if the way from the current time to it is at most half a turn. -/
theorem le_unwrapSerial_iff {field : UInt32} {now : Int} :
    now ≤ unwrapSerial field now ↔ (field.toNat - now) % serialModulus ≤ serialHalfRange := by
  obtain ⟨hremainder, hafter, hupTo⟩ := standsFor_unwrapSerial field now
  simp only [serialModulus, serialHalfRange, Int.ModEq] at *
  omega

/-- The moment that a time field means, computed in words. -/
def unwrapWord? (field : UInt32) (now : Int64) : Option Int64 := do
  let modulus ← Word.ofInt? serialModulus
  let halfRange ← Word.ofInt? serialHalfRange
  let seconds ← Word.ofInt? field.toNat
  let distance ← Word.sub? now seconds
  let shifted ← Word.add? distance halfRange
  let turns ← Word.div? shifted modulus
  let turned ← Word.mul? turns modulus
  Word.add? seconds turned

/-- No step of the computation leaves the range of words while the clock keeps to half of it. -/
theorem exists_unwrapWord?_eq (field : UInt32) {now : Int64} (hnow : |now.toInt| ≤ 2 ^ 62) :
    ∃ w, unwrapWord? field now = some w ∧ w.toInt = unwrapSerial field now.toInt := by
  have hfield := field.toNat_lt
  obtain ⟨hlow, hhigh⟩ := abs_le.mp hnow
  -- The bounds of each step follow from the exact results of the steps before it.
  obtain ⟨modulus, hmodulus, hmodulusEq⟩ :=
    Word.exists_ofInt?_eq_some (n := serialModulus) (by decide) (by decide)
  obtain ⟨half, hhalf, hhalfEq⟩ :=
    Word.exists_ofInt?_eq_some (n := serialHalfRange) (by decide) (by decide)
  rw [serialModulus] at hmodulusEq
  rw [serialHalfRange] at hhalfEq
  obtain ⟨seconds, hseconds, hsecondsEq⟩ :=
    Word.exists_ofInt?_eq_some (n := field.toNat) (by omega) (by omega)
  obtain ⟨distance, hdistance, hdistanceEq⟩ :=
    Word.exists_sub?_eq_some (x := now) (y := seconds) (by omega) (by omega)
  obtain ⟨shifted, hshifted, hshiftedEq⟩ :=
    Word.exists_add?_eq_some (x := distance) (y := half) (by omega) (by omega)
  have hne : modulus ≠ 0 := by
    rintro rfl
    simp at hmodulusEq
  obtain ⟨turns, hturns, hturnsEq⟩ := Word.exists_div?_eq_some (x := shifted) (y := modulus)
    (by rw [hmodulusEq]; omega) (by rw [hmodulusEq]; omega) hne
  rw [hmodulusEq] at hturnsEq
  obtain ⟨turned, hturned, hturnedEq⟩ := Word.exists_mul?_eq_some (x := turns) (y := modulus)
    (by rw [hmodulusEq]; omega) (by rw [hmodulusEq]; omega)
  rw [hmodulusEq] at hturnedEq
  obtain ⟨moment, hmoment, hmomentEq⟩ :=
    Word.exists_add?_eq_some (x := seconds) (y := turned) (by omega) (by omega)
  refine ⟨moment, ?_, ?_⟩
  · simp only [unwrapWord?, hmodulus, hhalf, hseconds, hdistance, hshifted, hturns, hturned,
      hmoment, Option.bind_eq_bind, Option.bind_some]
  · rw [hmomentEq, hturnedEq, hturnsEq, hshiftedEq, hdistanceEq, hsecondsEq, hhalfEq, unwrapSerial,
      serialModulus, serialHalfRange, Int.fdiv_eq_ediv_of_nonneg _ (by decide)]
    rfl

namespace ValidityWindow

/-- The window that the time fields of a signature mean at the current time, computed in words. -/
def ofWords? (inception expiration : UInt32) (now : Int64) : Option ValidityWindow := do
  let start ← unwrapWord? inception now
  let stop ← unwrapWord? expiration now
  return ⟨start.toInt, stop.toInt⟩

private theorem ofWords?_eq_some (inception expiration : UInt32) {now : Int64}
    (hnow : |now.toInt| ≤ 2 ^ 62) :
    ofWords? inception expiration now = some (ofFields inception expiration now.toInt) := by
  obtain ⟨start, hstart, hstartEq⟩ := exists_unwrapWord?_eq inception hnow
  obtain ⟨stop, hstop, hstopEq⟩ := exists_unwrapWord?_eq expiration hnow
  simp only [ofWords?, hstart, hstop, ofFields, hstartEq, hstopEq, Option.bind_eq_bind,
    Option.bind_some, Option.pure_def]

/-- Whole turns of the clock turn a window with it. -/
theorem ofFields_add_turns (inception expiration : UInt32) (now turns : Int) :
    ofFields inception expiration (now + turns * serialModulus) =
      ⟨(ofFields inception expiration now).start + turns * serialModulus,
        (ofFields inception expiration now).stop + turns * serialModulus⟩ := by
  simp only [ofFields, unwrapSerial_add_turns]

/-- Whole turns of the clock do not change whether a window contains the current time. -/
theorem contains_ofFields_add_turns (inception expiration : UInt32) (now turns : Int) :
    (ofFields inception expiration (now + turns * serialModulus)).contains
        (now + turns * serialModulus) = (ofFields inception expiration now).contains now := by
  simp only [ofFields_add_turns, contains, Int.add_le_add_iff_right]

/-- A window contains the current time exactly if the way from the inception to it is shorter than
half a turn, and the way from it to the expiration is at most half a turn. -/
theorem contains_ofFields_iff {inception expiration : UInt32} {now : Int} :
    (ofFields inception expiration now).contains now = true ↔
      (now - inception.toNat) % serialModulus < serialHalfRange ∧
        (expiration.toNat - now) % serialModulus ≤ serialHalfRange := by
  rw [contains, decide_eq_true_iff, ofFields, unwrapSerial_le_iff, le_unwrapSerial_iff]

/-- A window is computed within the range of words. Its two ends are the only moments that the two
fields can stand for, so two moments within half a turn are recovered from their remainders. Whole
turns of the clock turn the window with it and change nothing about whether it contains the current
time, which is told by the ways from the inception to the current time and on to the expiration. -/
theorem ofFields_serial (inception expiration : UInt32) (now : Int64)
    (hnow : |now.toInt| ≤ 2 ^ 62) :
    let w : ValidityWindow := ofFields inception expiration now.toInt
    ofWords? inception expiration now = some w ∧
    (∀ moment, w.start = moment ↔ StandsFor inception now.toInt moment) ∧
    (∀ moment, w.stop = moment ↔ StandsFor expiration now.toInt moment) ∧
    (∀ start stop, now.toInt - 2 ^ 31 < start → start ≤ now.toInt + 2 ^ 31 →
      now.toInt - 2 ^ 31 < stop → stop ≤ now.toInt + 2 ^ 31 →
      ofWords? (.ofInt start) (.ofInt stop) now = some ⟨start, stop⟩) ∧
    (∀ (later : Int64) (turns : Int), |later.toInt| ≤ 2 ^ 62 →
      later.toInt = now.toInt + turns * 2 ^ 32 → ∃ turned,
        ofWords? inception expiration later = some turned ∧
        turned.start = w.start + turns * 2 ^ 32 ∧ turned.stop = w.stop + turns * 2 ^ 32 ∧
        turned.contains later.toInt = w.contains now.toInt) ∧
    (w.contains now.toInt = true ↔ (now.toInt - inception.toNat) % 2 ^ 32 < 2 ^ 31 ∧
      (expiration.toNat - now.toInt) % 2 ^ 32 ≤ 2 ^ 31) := by
  intro w
  refine ⟨ofWords?_eq_some inception expiration hnow, fun _ => unwrapSerial_eq_iff,
    fun _ => unwrapSerial_eq_iff, ?_, ?_, contains_ofFields_iff⟩
  · intro start stop hstartAfter hstartUpTo hstopAfter hstopUpTo
    rw [ofWords?_eq_some _ _ hnow, ofFields, unwrapSerial_ofInt hstartAfter hstartUpTo,
      unwrapSerial_ofInt hstopAfter hstopUpTo]
  · intro later turns hlater hturns
    have hlaterEq : later.toInt = now.toInt + turns * serialModulus := hturns
    have hturned := ofFields_add_turns inception expiration now.toInt turns
    have hcontains := contains_ofFields_add_turns inception expiration now.toInt turns
    rw [← hlaterEq] at hturned hcontains
    refine ⟨_, ofWords?_eq_some inception expiration hlater, ?_, ?_, hcontains⟩
    · rw [hturned]
      rfl
    · rw [hturned]
      rfl

/-- A signature from an hour before the epoch to an hour after it, checked in the second before the
epoch and one turn later. -/
theorem ofFields_serial_before_epoch :
    |(-1 : Int64).toInt| ≤ 2 ^ 62 ∧
    ofWords? 4294963696 3600 (-1) = some ⟨-3600, 3600⟩ ∧
    ofWords? 4294963696 3600 4294967295 = some ⟨4294963696, 4294970896⟩ ∧
    (ofFields 4294963696 3600 (-1)).contains (-1) = true := by
  have hnow : |(-1 : Int64).toInt| ≤ 2 ^ 62 := by decide
  obtain ⟨hwords, -, -, -, hlater, hcontains⟩ := ofFields_serial 4294963696 3600 (-1) hnow
  obtain ⟨turned, hturned, hstart, hstop, -⟩ := hlater 4294967295 1 (by decide) (by decide)
  refine ⟨hnow, hwords, ?_, hcontains.mpr (by decide)⟩
  rw [hturned, Option.some.injEq]
  cases turned
  rw [ValidityWindow.mk.injEq]
  exact ⟨hstart, hstop⟩

end ValidityWindow

end DnsHealth
