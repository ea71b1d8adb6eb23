/-! Binary64 arithmetic in exact rationals. An operation on doubles is the exact operation followed
by `nearest`. Only numbers far below the overflow threshold are rounded here, so the exponent has a
lower bound and no upper one; infinities and NaN occur only in a double read from its bits. -/

namespace Voiceover

/-- A number read from the 64 bits of a double. The two zeros are one number. -/
inductive Binary64
  | nan
  | infinity (negative : Bool)
  | finite (value : Rat)

namespace Binary64

/-- The leading bit of a significand, which is not stored. -/
def hiddenBit : Nat := 1 <<< 52

def ofBits (bits : Nat) : Binary64 :=
  let negative : Bool := (bits >>> 63) % 2 = 1
  let exponent : Nat := (bits >>> 52) % 2048
  let fraction : Nat := bits % hiddenBit
  if exponent = 2047 then
    if fraction = 0 then .infinity negative else .nan
  else
    let magnitude : Rat :=
      if exponent = 0 then (fraction : Rat) * 2 ^ (-1074 : Int)
      else ((hiddenBit + fraction : Nat) : Rat) * 2 ^ ((exponent : Int) - 1075)
    .finite (if negative then -magnitude else magnitude)

def roundHalfEven (value : Rat) : Int :=
  let below := value.floor
  let excess := value - below
  if excess < 1 / 2 then below
  else if 1 / 2 < excess then below + 1
  else if below % 2 = 0 then below
  else below + 1

def roundHalfUp (value : Rat) : Nat :=
  (value + 1 / 2).floor.toNat

/-- The exponent of the binade of a number other than zero: two to this power is not above the
magnitude, and two to the next one is. -/
def binade (value : Rat) : Int :=
  let estimate : Int := (value.num.natAbs.log2 : Int) - (value.den.log2 : Int)
  if (2 : Rat) ^ estimate ≤ (if value < 0 then -value else value) then estimate else estimate - 1

def spacing (value : Rat) : Rat :=
  (2 : Rat) ^ max (binade value - 52) (-1074)

/-- The double nearest to a number; a tie goes to the one with the even significand. -/
def nearest (value : Rat) : Rat :=
  if value = 0 then 0 else roundHalfEven (value / spacing value) * spacing value

end Binary64

end Voiceover
