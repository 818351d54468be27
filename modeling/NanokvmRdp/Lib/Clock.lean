/-!
# Free-running clocks

A 64-bit counter that starts anywhere and wraps. Times are natural numbers, and
`reading start time` is what the counter shows. The difference of two readings
is the time between them, wherever the counter started, as long as that is less
than a whole turn of the counter.
-/

namespace Clock

def reading (start : UInt64) (time : Nat) : UInt64 := start + UInt64.ofNat time

theorem reading_sub (start : UInt64) (h : earlier ≤ later) :
    reading start later - reading start earlier = UInt64.ofNat (later - earlier) := by
  unfold reading
  rw [UInt64.ofNat_sub h]
  grind

theorem toNat_reading_sub (start : UInt64) (h : earlier ≤ later) (hturn : later - earlier < UInt64.size) :
    (reading start later - reading start earlier).toNat = later - earlier := by
  rw [reading_sub start h, UInt64.toNat_ofNat_of_lt' hturn]

theorem reading_sub_gt_iff (start limit : UInt64) (h : earlier ≤ later) (hturn : later - earlier < UInt64.size) :
    reading start later - reading start earlier > limit ↔ limit.toNat < later - earlier := by
  rw [gt_iff_lt, UInt64.lt_iff_toNat_lt, toNat_reading_sub start h hturn]

theorem reading_sub_ge_iff (start limit : UInt64) (h : earlier ≤ later) (hturn : later - earlier < UInt64.size) :
    reading start later - reading start earlier ≥ limit ↔ limit.toNat ≤ later - earlier := by
  rw [ge_iff_le, UInt64.le_iff_toNat_le, toNat_reading_sub start h hturn]

end Clock
