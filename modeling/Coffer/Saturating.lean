/-!
# Saturating arithmetic

Sums that stop at the largest word instead of starting over.
-/

namespace Coffer

def satAdd64 (x y : UInt64) : UInt64 := UInt64.ofNat (min (x.toNat + y.toNat) 0xffffffffffffffff)

def satAdd32 (x y : UInt32) : UInt32 := UInt32.ofNat (min (x.toNat + y.toNat) 0xffffffff)

theorem toNat_satAdd64 (x y : UInt64) :
    (satAdd64 x y).toNat = min (x.toNat + y.toNat) 0xffffffffffffffff := by
  simp only [satAdd64, UInt64.toNat_ofNat']
  omega

theorem toNat_satAdd32 (x y : UInt32) :
    (satAdd32 x y).toNat = min (x.toNat + y.toNat) 0xffffffff := by
  simp only [satAdd32, UInt32.toNat_ofNat']
  omega

end Coffer
