import Docking.Colour
import Mathlib.Algebra.Group.Nat.Defs

namespace Docking

/-! What is known of a binary32 number after rounding, by comparison with exact numbers. The order
of binary32 numbers is that of the rational numbers they stand for. -/

open Float.Model Float.Model.UnpackedFloat

section Order

variable {mantissa other : Nat} {exponent lower : Int} {low number : Float32} {bound : Rat}

def magnitude (mantissa : Nat) (exponent : Int) : Rat :=
  mantissa * 2 ^ exponent

/-- Mantissa and exponent as binary32 has them: all 24 bits in use unless the exponent is least. -/
structure Canonical (mantissa : Nat) (exponent : Int) : Prop where
  lt_two_pow : mantissa < 2 ^ 24
  least_le : -149 ≤ exponent
  full : 2 ^ 23 ≤ mantissa ∨ exponent = -149

theorem two_zpow_pos (exponent : Int) : (0 : Rat) < 2 ^ exponent :=
  Rat.zpow_pos (by decide)

theorem magnitude_pos (positive : 0 < mantissa) (exponent : Int) :
    0 < magnitude mantissa exponent :=
  Rat.mul_pos (Rat.natCast_pos.mpr positive) (two_zpow_pos exponent)

theorem magnitude_le_iff (mantissa other : Nat) (exponent : Int) :
    magnitude mantissa exponent ≤ magnitude other exponent ↔ mantissa ≤ other := by
  rw [← Rat.not_lt, magnitude, magnitude, Rat.mul_lt_mul_right (two_zpow_pos exponent),
    Rat.natCast_lt_natCast, Nat.not_lt]

theorem magnitude_lt_iff (mantissa other : Nat) (exponent : Int) :
    magnitude mantissa exponent < magnitude other exponent ↔ mantissa < other := by
  rw [magnitude, magnitude, Rat.mul_lt_mul_right (two_zpow_pos exponent), Rat.natCast_lt_natCast]

theorem magnitude_add (mantissa : Nat) (exponent : Int) (shift : Nat) :
    magnitude mantissa (exponent + shift) = magnitude (mantissa * 2 ^ shift) exponent := by
  rw [magnitude, magnitude, Rat.zpow_add (by decide), Rat.zpow_natCast, Rat.natCast_mul,
    Rat.natCast_pow, Rat.mul_comm (2 ^ exponent), Rat.mul_assoc]
  rfl

namespace Canonical

variable (first : Canonical mantissa lower) (second : Canonical other exponent)
include first second

theorem magnitude_lt (below : lower < exponent) :
    magnitude mantissa lower < magnitude other exponent := by
  obtain ⟨gap, rfl⟩ : ∃ gap : Nat, exponent = lower + (gap + 1 : Nat) :=
    ⟨(exponent - lower - 1).toNat, by omega⟩
  have least := first.least_le
  have full : 2 ^ 23 ≤ other := second.full.resolve_right (by omega)
  rw [magnitude_add, magnitude_lt_iff]
  calc
    mantissa < 2 ^ 23 * 2 := first.lt_two_pow
    _ ≤ other * 2 ^ (gap + 1) :=
      Nat.mul_le_mul full (Nat.pow_le_pow_right (Nat.two_pos) (Nat.le_add_left 1 gap))

theorem compare_isLE :
    ((compare lower exponent).then (compare mantissa other)).isLE = true ↔
      magnitude mantissa lower ≤ magnitude other exponent := by
  rcases Int.lt_trichotomy lower exponent with below | rfl | above
  · rw [Int.compare_eq_lt.mpr below]
    exact iff_of_true rfl (Rat.le_of_lt (first.magnitude_lt second below))
  · rw [Int.compare_eq_eq.mpr rfl, magnitude_le_iff]
    exact Nat.isLE_compare
  · rw [Int.compare_eq_gt.mpr above]
    exact iff_of_false Bool.false_ne_true (Rat.not_le.mpr (second.magnitude_lt first above))

end Canonical

theorem canonical_of_unpack {model : Float32.Model} {sign : Sign} {positive : 0 < mantissa}
    (unpacked : model.unpack = .finite sign mantissa exponent positive) :
    Canonical mantissa exponent := by
  have bias : (Format.binary32.exponentBias : Int) = 127 := rfl
  unfold Float32.Model.unpack UnpackedFloat.unpack at unpacked
  dsimp only at unpacked
  generalize @unpackExponent .binary32 model.toBits.toBitVec = biased at unpacked
  have small : (@unpackMantissa .binary32 model.toBits.toBitVec).toNat < 2 ^ 23 := BitVec.isLt _
  by_cases special : biased = -1#8
  · rw [if_pos special] at unpacked
    by_cases zero : @unpackMantissa .binary32 model.toBits.toBitVec = 0#23
    · rw [if_pos zero] at unpacked
      cases unpacked
    · rw [if_neg zero] at unpacked
      cases unpacked
  rw [if_neg special] at unpacked
  by_cases subnormal : biased = 0#8
  · rw [if_pos subnormal] at unpacked
    by_cases zero : @unpackMantissa .binary32 model.toBits.toBitVec = 0#23
    · rw [dif_pos zero] at unpacked
      cases unpacked
    · rw [dif_neg zero] at unpacked
      injection unpacked with _ mantissa_eq exponent_eq
      rw [subnormal, bias] at exponent_eq
      have exponent_eq : exponent = -149 := exponent_eq.symm
      exact ⟨by omega, by omega, .inr exponent_eq⟩
  · rw [if_neg subnormal] at unpacked
    injection unpacked with _ mantissa_eq exponent_eq
    have present : biased.toNat ≠ 0 := fun zero => subnormal (BitVec.eq_of_toNat_eq zero)
    have joined := Nat.two_pow_add_eq_or_of_lt small 1
    rw [bias] at exponent_eq
    rw [BitVec.toNat_append, Nat.shiftLeft_eq] at mantissa_eq
    have mantissa_eq := joined.trans mantissa_eq
    exact ⟨by omega, by omega, .inl (by omega)⟩

/-- The exact value of a finite number that is not zero. -/
def signed : Sign → Nat → Int → Rat
  | .positive, mantissa, exponent => magnitude mantissa exponent
  | .negative, mantissa, exponent => -magnitude mantissa exponent

theorem signed_positive_pos (positive : 0 < mantissa) (exponent : Int) :
    0 < signed .positive mantissa exponent :=
  magnitude_pos positive exponent

theorem signed_negative_neg (positive : 0 < mantissa) (exponent : Int) :
    signed .negative mantissa exponent < 0 := by
  have above := magnitude_pos positive exponent
  rw [signed]
  grind

theorem reading_of_finite {sign : Sign} {positive : 0 < mantissa}
    (unpacked : number.toModel.unpack = .finite sign mantissa exponent positive) :
    reading number = .finite (signed sign mantissa exponent) := by
  cases sign with
  | positive =>
      rw [reading, unpacked]
      rfl
  | negative =>
      rw [reading, unpacked, signed, magnitude, ← Rat.neg_mul, ← Rat.intCast_natCast,
        ← Rat.intCast_neg]
      rfl

theorem Canonical.compare_finite_isLE (first : Canonical mantissa lower)
    (second : Canonical other exponent) (positive : 0 < mantissa) (positive' : 0 < other)
    (sign sign' : Sign) :
    ((UnpackedFloat.finite sign mantissa lower positive).compare
        (.finite sign' other exponent positive')).any (·.isLE) = true ↔
      signed sign mantissa lower ≤ signed sign' other exponent := by
  cases sign with
  | positive =>
      have above := signed_positive_pos positive lower
      cases sign' with
      | positive => exact first.compare_isLE second
      | negative =>
          have below := signed_negative_neg positive' exponent
          exact iff_of_false Bool.false_ne_true fun ordered =>
            Rat.not_le.mpr below (Rat.le_trans (Rat.le_of_lt above) ordered)
  | negative =>
      have below := signed_negative_neg positive lower
      cases sign' with
      | positive =>
          have above := signed_positive_pos positive' exponent
          exact iff_of_true rfl (Rat.le_trans (Rat.le_of_lt below) (Rat.le_of_lt above))
      | negative =>
          -- both orders are reversed
          change ((compare lower exponent).then (compare mantissa other)).swap.isLE = true ↔
            -magnitude mantissa lower ≤ -magnitude other exponent
          rw [Ordering.swap_then, ← Std.OrientedCmp.eq_swap, ← Std.OrientedCmp.eq_swap,
            Rat.neg_le_neg_iff]
          exact second.compare_isLE first

end Order

namespace Reading

/-- A finite number passes a bar that its value passes. Positive infinity passes every bar, negative
infinity none, and neither does what is not a number. -/
def Passes (bar : Rat → Prop) : Reading → Prop
  | undefined => False
  | infinite negative => negative = false
  | finite value => bar value

instance (bar : Rat → Prop) [DecidablePred bar] : DecidablePred (Passes bar)
  | undefined => inferInstanceAs (Decidable False)
  | infinite negative => inferInstanceAs (Decidable (negative = false))
  | finite value => inferInstanceAs (Decidable (bar value))

variable {rounding : Rat → Int} {limit count : Nat} {bar : Rat → Prop}

theorem le_saturate_iff (present : 0 < count) (within : count ≤ limit)
    (rounds : ∀ value, count ≤ rounding value ↔ bar value) (reading : Reading) :
    count ≤ reading.saturate rounding limit ↔ reading.Passes bar := by
  cases reading with
  | undefined => exact iff_of_false (Nat.not_le.mpr present) id
  | infinite negative =>
      cases negative with
      | false => exact iff_of_true within rfl
      | true => exact iff_of_false (Nat.not_le.mpr present) Bool.false_ne_true.symm
  | finite value =>
      rw [saturate, Passes, ← rounds value]
      omega

theorem saturate_le (reading : Reading) (rounding : Rat → Int) (limit : Nat) :
    reading.saturate rounding limit ≤ limit := by
  cases reading with
  | undefined => exact Nat.zero_le limit
  | infinite negative => cases negative <;> simp [saturate]
  | finite value => exact Nat.min_le_right _ _

end Reading

section Ordered

variable {low number : Float32} {bound value : Rat}

theorem le_iff_compare_isLE : low ≤ number ↔
    (low.toModel.unpack.compare number.toModel.unpack).any (·.isLE) = true :=
  decide_eq_true_iff

theorem unpack_of_reading (read : reading number = .finite value) :
    (∃ sign, number.toModel.unpack = .zero sign ∧ value = 0) ∨
      ∃ sign mantissa exponent positive,
        number.toModel.unpack = .finite sign mantissa exponent positive ∧
          value = signed sign mantissa exponent := by
  cases unpacked : number.toModel.unpack with
  | notANumber =>
      rw [reading, unpacked] at read
      cases read
  | infinity sign =>
      rw [reading, unpacked] at read
      cases sign <;> cases read
  | zero sign =>
      rw [reading, unpacked] at read
      exact .inl ⟨sign, rfl, (Reading.finite.inj read).symm⟩
  | finite sign mantissa exponent positive =>
      rw [reading_of_finite unpacked] at read
      exact .inr ⟨sign, mantissa, exponent, positive, rfl, (Reading.finite.inj read).symm⟩

theorem le_iff_of_finite (read : reading low = .finite bound)
    (read' : reading number = .finite value) : low ≤ number ↔ bound ≤ value := by
  rw [le_iff_compare_isLE]
  obtain ⟨sign, lower, rfl⟩ | ⟨sign, mantissa, exponent, positive, lower, rfl⟩ :=
      unpack_of_reading read
  · obtain ⟨sign', upper, rfl⟩ | ⟨sign', other, exponent', positive', upper, rfl⟩ :=
        unpack_of_reading read'
    · rw [lower, upper]
      exact iff_of_true rfl Rat.le_refl
    · rw [lower, upper]
      cases sign' with
      | positive => exact iff_of_true rfl (Rat.le_of_lt (signed_positive_pos positive' exponent'))
      | negative =>
          have below := signed_negative_neg positive' exponent'
          exact iff_of_false Bool.false_ne_true (Rat.not_le.mpr below)
  · obtain ⟨sign', upper, rfl⟩ | ⟨sign', other, exponent', positive', upper, rfl⟩ :=
        unpack_of_reading read'
    · rw [lower, upper]
      cases sign with
      | positive =>
          have above := signed_positive_pos positive exponent
          exact iff_of_false Bool.false_ne_true (Rat.not_le.mpr above)
      | negative => exact iff_of_true rfl (Rat.le_of_lt (signed_negative_neg positive exponent))
    · rw [lower, upper]
      exact (canonical_of_unpack lower).compare_finite_isLE (canonical_of_unpack upper) positive
        positive' sign sign'

/-- The order of binary32 numbers is that of the numbers they stand for. -/
theorem le_iff_passes (read : reading low = .finite bound) (number : Float32) :
    low ≤ number ↔ (reading number).Passes (bound ≤ ·) := by
  have shape := unpack_of_reading read
  cases upper : number.toModel.unpack with
  | notANumber =>
      rw [le_iff_compare_isLE, reading, upper]
      obtain ⟨_, lower, _⟩ | ⟨_, _, _, _, lower, _⟩ := shape <;>
        exact lower ▸ iff_of_false Bool.false_ne_true id
  | infinity sign =>
      rw [le_iff_compare_isLE, reading, upper]
      cases sign with
      | positive =>
          obtain ⟨_, lower, _⟩ | ⟨_, _, _, _, lower, _⟩ := shape <;>
            exact lower ▸ iff_of_true rfl rfl
      | negative =>
          obtain ⟨_, lower, _⟩ | ⟨_, _, _, _, lower, _⟩ := shape <;>
            exact lower ▸ iff_of_false Bool.false_ne_true Bool.false_ne_true.symm
  | zero sign =>
      have read' : reading number = .finite 0 := by rw [reading, upper]
      rw [read', le_iff_of_finite read read', Reading.Passes]
  | finite sign mantissa exponent positive =>
      have read' := reading_of_finite upper
      rw [read', le_iff_of_finite read read', Reading.Passes]

end Ordered

section Words

variable {count : Nat} {number : Float32} {byte : UInt8}

theorem le_floorWord_iff (present : 0 < count) (within : count < UInt32.size)
    (number : Float32) :
    count ≤ floorWord number ↔ (reading number).Passes (count ≤ ·) :=
  Reading.le_saturate_iff present (Nat.le_sub_one_of_lt within) (fun _ => Rat.le_floor_iff) _

theorem lt_ceilWord_iff (within : count + 1 < UInt32.size) (number : Float32) :
    count < ceilWord number ↔ (reading number).Passes (count < ·) := by
  refine Reading.le_saturate_iff (Nat.succ_pos count) (Nat.le_sub_one_of_lt within) ?_ _
  intro value
  rw [Int.natCast_succ, ← Int.lt_iff_add_one_le, Rat.lt_ceil_iff, Rat.intCast_natCast]

theorem le_nearest_iff (present : 0 < count) (value : Rat) :
    count ≤ nearest value ↔ (count - 1 / 2 : Rat) ≤ value := by
  have one_le : (1 : Rat) ≤ count := Rat.natCast_le_natCast.mpr present
  unfold nearest
  split
  · next negative =>
      have whole : 0 ≤ (-value + 1 / 2).floor := Rat.le_floor_iff.mpr (by grind)
      exact iff_of_false (by omega) (by grind)
  · rw [Rat.le_floor_iff, Rat.intCast_natCast]
    grind

theorem le_nearestByte_iff (present : 0 < count) (within : count < UInt8.size)
    (number : Float32) :
    count ≤ (nearestByte number).toNat ↔ (reading number).Passes ((count - 1 / 2 : Rat) ≤ ·) := by
  have small := (reading number).saturate_le nearest (UInt8.size - 1)
  rw [nearestByte, UInt8.toNat_ofNat_of_lt' (Nat.lt_of_le_pred (by decide) small)]
  exact Reading.le_saturate_iff present (Nat.le_sub_one_of_lt within) (le_nearest_iff present) _

theorem reading_below (byte : UInt8) :
    reading (byte.toFloat32 - 0.5) = .finite (byte.toNat - 1 / 2) := by
  have table : ∀ index : Fin UInt8.size,
      reading ((UInt8.ofFin index).toFloat32 - 0.5) = .finite (index.val - 1 / 2) := by
    decide +kernel
  exact table byte.toFin

theorem reading_above (byte : UInt8) :
    reading (byte.toFloat32 + 0.5) = .finite ((byte.toNat + 1 : Nat) - 1 / 2) := by
  have table : ∀ index : Fin UInt8.size,
      reading ((UInt8.ofFin index).toFloat32 + 0.5) = .finite ((index.val + 1 : Nat) - 1 / 2) := by
    decide +kernel
  exact table byte.toFin

/-- The byte nearest to a number, the larger one for a half. A number beyond the bytes goes to the
last of them on its side, and what is not a number to zero. -/
structure RoundsTo (number : Float32) (byte : UInt8) : Prop where
  reached : byte = 0 ∨ byte.toFloat32 - 0.5 ≤ number
  missed : byte = 255 ∨ ¬ byte.toFloat32 + 0.5 ≤ number

theorem roundsTo_iff : RoundsTo number byte ↔ nearestByte number = byte := by
  have bounded := byte.toNat_lt
  have reached : byte = 0 ∨ byte.toFloat32 - 0.5 ≤ number ↔
      byte.toNat ≤ (nearestByte number).toNat := by
    by_cases zero : byte = 0
    · subst zero
      exact iff_of_true (.inl rfl) (Nat.zero_le _)
    · have present : 0 < byte.toNat := Nat.pos_of_ne_zero fun none => zero (UInt8.toNat_inj.mp none)
      rw [or_iff_right zero, le_iff_passes (reading_below byte), le_nearestByte_iff present bounded]
  have missed : byte = 255 ∨ ¬ byte.toFloat32 + 0.5 ≤ number ↔
      (nearestByte number).toNat ≤ byte.toNat := by
    by_cases last : byte = 255
    · subst last
      exact iff_of_true (.inl rfl) (Nat.le_of_lt_succ (nearestByte number).toNat_lt)
    · have within : byte.toNat + 1 < UInt8.size := by
        have other : byte.toNat ≠ 255 := fun same => last (UInt8.toNat_inj.mp same)
        change byte.toNat < 256 at bounded
        change byte.toNat + 1 < 256
        omega
      rw [or_iff_right last, le_iff_passes (reading_above byte),
        ← le_nearestByte_iff (Nat.succ_pos _) within, Nat.not_le, Nat.lt_succ_iff]
  constructor
  · intro rounds
    exact UInt8.toNat_inj.mp
      (Nat.le_antisymm (missed.mp rounds.missed) (reached.mp rounds.reached))
  · rintro rfl
    exact ⟨reached.mpr (Nat.le_refl _), missed.mpr (Nat.le_refl _)⟩

theorem reading_of_isNaN {number : Float32} (undefined : number.isNaN = true) :
    reading number = .undefined := by
  change number.toModel.unpack.isNaN = true at undefined
  rw [reading]
  cases unpacked : number.toModel.unpack with
  | notANumber => rfl
  | infinity | zero | finite =>
      rw [unpacked] at undefined
      exact absurd undefined Bool.false_ne_true

theorem not_passes_of_lt_zero {bar : Rat → Prop} (high : ∀ value ≤ 0, ¬ bar value)
    {number : Float32} (negative : number < 0) : ¬ (reading number).Passes bar := by
  have compared : (number.toModel.unpack.compare (.zero .positive) == some .lt) = true :=
    of_decide_eq_true negative
  cases unpacked : number.toModel.unpack with
  | notANumber | zero =>
      rw [unpacked] at compared
      exact absurd compared Bool.false_ne_true
  | infinity sign =>
      rw [unpacked] at compared
      rw [reading, unpacked]
      cases sign with
      | positive => exact absurd compared Bool.false_ne_true
      | negative => exact Bool.false_ne_true.symm
  | finite sign mantissa exponent positive =>
      rw [unpacked] at compared
      rw [reading_of_finite unpacked]
      cases sign with
      | positive => exact absurd compared Bool.false_ne_true
      | negative => exact high _ (Rat.le_of_lt (signed_negative_neg positive exponent))

theorem passes_larger_zero_iff {bar : Rat → Prop} (high : ∀ value ≤ 0, ¬ bar value)
    (number : Float32) :
    (reading (larger number 0)).Passes bar ↔ (reading number).Passes bar := by
  have zero : ¬ (reading 0).Passes bar := high 0 Rat.le_refl
  unfold larger
  split
  · next undefined =>
      rw [reading_of_isNaN undefined]
      exact iff_of_false zero id
  · split
    · next negative => exact iff_of_false zero (not_passes_of_lt_zero high negative)
    · rfl

end Words

/-- A component is shown by the byte nearest to its share of 255, and one outside of the unit
interval by the nearer end of the bytes. -/
def ShowsComponent (component : Float32) (byte : UInt8) : Prop :=
  if component < 0 then byte = 0
  else if 1 < component then byte = 255
  else RoundsTo (component * 255) byte

structure Pixel.Shows (pixel : Pixel) (colour : Colour) : Prop where
  red : ShowsComponent colour.red pixel.red
  green : ShowsComponent colour.green pixel.green
  blue : ShowsComponent colour.blue pixel.blue
  alpha : ShowsComponent colour.alpha pixel.alpha

namespace Colour

theorem showsComponent_iff {component : Float32} {byte : UInt8} :
    ShowsComponent component byte ↔ quantise component = byte := by
  have dark : nearestByte ((if (1 : Float32) < 0 then 1 else 0) * 255) = 0 := by decide +kernel
  have full : nearestByte ((1 : Float32) * 255) = 255 := by decide +kernel
  unfold ShowsComponent quantise clampUnit
  by_cases below : component < 0
  · simp only [if_pos below, dark]
    exact eq_comm
  · by_cases above : 1 < component
    · simp only [if_neg below, if_pos above, full]
      exact eq_comm
    · simp only [if_neg below, if_neg above]
      exact roundsTo_iff

theorem shows_iff {pixel : Pixel} {colour : Colour} :
    pixel.Shows colour ↔ colour.toPixel = pixel := by
  constructor
  · rintro ⟨red, green, blue, alpha⟩
    rw [showsComponent_iff] at red green blue alpha
    rw [toPixel, red, green, blue, alpha]
  · rintro rfl
    constructor <;> exact showsComponent_iff.mpr rfl

end Colour
end Docking
