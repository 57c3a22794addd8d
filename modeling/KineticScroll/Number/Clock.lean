/-!
# The clock

Times and durations are unsigned 64-bit milliseconds.  Hosts may report times
out of order, so a difference stops at zero; a sum stops at the end of time.
-/

namespace KineticScroll

abbrev Millis := UInt64

namespace Millis

def greatest : Millis := 18446744073709551615

/-- The time that much later. -/
def later (time delay : Millis) : Millis :=
  if time.toNat + delay.toNat ≤ greatest.toNat then time + delay else greatest

/-- The time elapsed from one moment to another, zero when the clock went back. -/
def elapsed (start finish : Millis) : Millis :=
  if start ≤ finish then finish - start else 0

/-- The times of so many frames, one every `interval` after a time. -/
def ticks (time interval : Millis) : Nat → List Millis
  | 0 => []
  | count + 1 => later time interval :: ticks (later time interval) interval count

theorem toNat_later (time delay : Millis) :
    (later time delay).toNat = min (time.toNat + delay.toNat) greatest.toNat := by
  have bound : greatest.toNat = 18446744073709551615 := rfl
  unfold later
  split
  · next inside =>
      rw [UInt64.toNat_add, Nat.mod_eq_of_lt (by omega)]
      omega
  · omega

theorem toNat_elapsed (start finish : Millis) :
    (elapsed start finish).toNat = finish.toNat - start.toNat := by
  unfold elapsed
  split
  · next inside => exact UInt64.toNat_sub_of_le _ _ inside
  · next outside =>
      rw [UInt64.le_iff_toNat_le] at outside
      simp only [UInt64.toNat_zero]
      omega

theorem later_zero (time : Millis) : later time 0 = time := by
  have bound := time.toNat_lt
  have last : greatest.toNat = 18446744073709551615 := rfl
  rw [← UInt64.toNat_inj, toNat_later, UInt64.toNat_zero]
  omega

theorem le_later (time delay : Millis) : time ≤ later time delay := by
  have bound := time.toNat_lt
  have last : greatest.toNat = 18446744073709551615 := rfl
  rw [UInt64.le_iff_toNat_le, toNat_later]
  omega

/-- The later of two times stays the later one after the same delay. -/
theorem later_le_later {early late : Millis} (ordered : early ≤ late) (delay : Millis) :
    later early delay ≤ later late delay := by
  rw [UInt64.le_iff_toNat_le] at ordered
  rw [UInt64.le_iff_toNat_le, toNat_later, toNat_later]
  omega

end Millis

end KineticScroll
