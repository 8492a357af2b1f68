import IppXml.Text.PrintableTable

/-! Characters that can be shown as they are. -/

namespace IppXml

/-- Letters, marks, numbers, punctuation, symbols and the ASCII space. -/
def isPrintable (c : Char) : Bool :=
  let n := c.toNat
  if n < 0x80 then 0x20 ≤ n && n ≤ 0x7E
  else if n < 0x10000 then Text.inIntervals Text.printableBasic n
  else Text.inIntervals Text.printableSupplementary n

end IppXml
