namespace Flowgraph.Text

def sixBits? (c : Char) : Option Nat :=
  if c.isUpper then some (c.toNat - 'A'.toNat)
  else if c.isLower then some (c.toNat - 'a'.toNat + 26)
  else if c.isDigit then some (c.toNat - '0'.toNat + 52)
  else if c == '+' then some 62
  else if c == '/' then some 63
  else none

/-- Reads on with `held`, the characters of the last group of four that are read, as bits, and
`pads`, the padding behind them. A full group and a padded one are complete; what stands behind
padding, and characters outside the alphabet, do not count. -/
def decodeBase64From (held : List Nat) (pads : Nat) : List Char → Option (List UInt8)
  | [] => if held.isEmpty then some [] else none
  | '=' :: cs =>
    match held with
    | _ :: _ :: _ =>
      if held.length + pads + 1 ≥ 4 then some [] else decodeBase64From held (pads + 1) cs
    | _ => decodeBase64From held pads cs
  | c :: cs =>
    match sixBits? c, held with
    | none, _ => decodeBase64From held pads cs
    | some d, [] => decodeBase64From [d] 0 cs
    | some d, [a] => (decodeBase64From [a, d] 0 cs).map ((a * 4 + d / 16).toUInt8 :: ·)
    | some d, [a, b] =>
      (decodeBase64From [a, b, d] 0 cs).map ((b % 16 * 16 + d / 4).toUInt8 :: ·)
    | some d, _ :: _ :: c :: _ =>
      (decodeBase64From [] 0 cs).map ((c % 4 * 64 + d).toUInt8 :: ·)

/-- The octets that a text writes, if no group of characters is left incomplete. -/
def decodeBase64? (text : List Char) : Option (List UInt8) := decodeBase64From [] 0 text

end Flowgraph.Text
