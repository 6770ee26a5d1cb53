/-!
# Rounding

Quotients are rounded to the nearest integer, and in the middle between two of them to the even
one, so that errors have no direction.
-/

namespace ShaderVariants

/-- A quotient rounded to the nearest integer; a half goes to the even one. -/
def roundQuotient (numerator denominator : Nat) : Nat :=
  let floor := numerator / denominator
  match compare (2 * (numerator % denominator)) denominator with
  | .lt => floor
  | .gt => floor + 1
  | .eq => floor + floor % 2

end ShaderVariants
