namespace LtiPlatform.Modular

/-- The power modulo `m`, by squaring along the bits of the exponent. -/
def power (m base exponent : Nat) : Nat :=
  if exponent = 0 then 1 % m
  else
    let half := power m (base * base % m) (exponent / 2)
    if exponent % 2 = 0 then half else base * half % m

/-- The inverse modulo a prime. -/
def inverse (p x : Nat) : Nat := power p (x % p) (p - 2)

def subtract (m x y : Nat) : Nat := (x + m - y % m) % m

end LtiPlatform.Modular
