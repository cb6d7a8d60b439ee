import ProjectIndex.Number.Shortest

/-!
How a double is written in reports and configuration messages.

The digits are the shortest that read back (`Binary.shortest`). They are written positionally when
the exponent of the leading digit lies in `-4 … 15`, with `.0` after an integral value, and
otherwise as one digit, the remaining digits after a point, and an exponent with a sign and at
least two digits (`1e+16`, `1.5e-05`). Zero keeps its sign; the special values are `inf`, `-inf`
and `nan`.

Owns: `Dec.layout`, `floatText`, and `fixedText` for values rounded to fixed places.
-/

namespace ProjectIndex.Number

/-- Decimal digits of a natural number, most significant first. -/
def digitText (n : Nat) : String :=
  String.ofList (Nat.toDigits 10 n)

/-- Layout of a non-negative decimal with no trailing zeros in its digits. -/
def Dec.layout (d : Dec) : String :=
  let ds := digitText d.digits
  let len := ds.length
  -- exponent of the leading digit
  let lead : Int := d.exp + len - 1
  if -4 ≤ lead ∧ lead < 16 then
    if d.exp ≥ 0 then
      ds ++ String.ofList (List.replicate d.exp.toNat '0') ++ ".0"
    else if lead ≥ 0 then
      let intLen := (lead + 1).toNat
      String.ofList (ds.toList.take intLen) ++ "." ++ String.ofList (ds.toList.drop intLen)
    else
      "0." ++ String.ofList (List.replicate (-lead - 1).toNat '0') ++ ds
  else
    let mantissa :=
      if len == 1 then ds
      else String.ofList (ds.toList.take 1) ++ "." ++ String.ofList (ds.toList.drop 1)
    let sign := if lead < 0 then "-" else "+"
    let expDigits := digitText lead.natAbs
    let expText := if expDigits.length < 2 then "0" ++ expDigits else expDigits
    mantissa ++ "e" ++ sign ++ expText

/-- The text of a double: shortest digits that read back, laid out by `Dec.layout`. -/
def floatText (x : Float) : String :=
  let bits := x.toBits
  let negative := bits >>> 63 == 1
  let sign := if negative then "-" else ""
  if x.isNaN then "nan"
  else if x.isInf then sign ++ "inf"
  else
    let b := Binary.ofBits bits
    if b.m == 0 then sign ++ "0.0" else sign ++ b.shortest.layout

/-- The text of a non-negative value given in units of `10^-places`, as the double nearest to it
is written. Such a value has few digits, so its shortest form is the value itself. -/
def fixedText (units : Nat) (places : Nat) : String :=
  if units == 0 then "0.0" else (Dec.normalize ⟨units, -(places : Int)⟩).layout

end ProjectIndex.Number
