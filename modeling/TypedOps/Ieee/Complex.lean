import TypedOps.Ieee.Arithmetic

/-!
Complex numbers with parts of one format. Products and quotients are the schoolbook formulas, in
which every step rounds.
-/
namespace TypedOps.Ieee

/-- A complex number. -/
structure Complex (f : Format) where
  re : Binary f
  im : Binary f
  deriving DecidableEq

namespace Complex

variable {f g : Format}

/-- The sum, part by part. -/
def add (x y : Complex f) : Complex f :=
  ⟨x.re.add y.re, x.im.add y.im⟩

/-- The difference, part by part. -/
def sub (x y : Complex f) : Complex f :=
  ⟨x.re.sub y.re, x.im.sub y.im⟩

/-- `(a + bi)(c + di) = (ac - bd) + (ad + bc)i`. -/
def mul (x y : Complex f) : Complex f :=
  ⟨(x.re.mul y.re).sub (x.im.mul y.im), (x.re.mul y.im).add (x.im.mul y.re)⟩

/-- `(a + bi) / (c + di) = ((ac + bd) + (bc - ad)i) / (cc + dd)`. -/
def div (x y : Complex f) : Complex f :=
  let norm := (y.re.mul y.re).add (y.im.mul y.im)
  ⟨((x.re.mul y.re).add (x.im.mul y.im)).div norm,
    ((x.im.mul y.re).sub (x.re.mul y.im)).div norm⟩

/-- Whether both parts are equal. -/
def equals (x y : Complex f) : Bool :=
  x.re.equals y.re && x.im.equals y.im

/-- The nearest complex number with parts of another format. -/
def convert (x : Complex f) : Complex g :=
  ⟨x.re.convert, x.im.convert⟩

end Complex

end TypedOps.Ieee
