namespace WorkflowQueue.Text

/-!
# Base 64

Three bytes are written as four characters; a last group that is shorter is
filled up with equals signs.
-/

/-- The character of a six-bit number. -/
def sixBitChar
    (value : Nat) :
    Char :=
  if value < 26 then Char.ofNat ('A'.toNat + value)
  else if value < 52 then Char.ofNat ('a'.toNat + (value - 26))
  else if value < 62 then Char.ofNat ('0'.toNat + (value - 52))
  else if value = 62 then '+'
  else '/'

/-- Bytes in base 64. -/
def base64 :
    List UInt8 →
    List Char
  | [] => []
  | [a] =>
      let bits := a.toNat * 16
      [sixBitChar (bits / 64), sixBitChar (bits % 64), '=', '=']
  | [a, b] =>
      let bits := (a.toNat * 256 + b.toNat) * 4
      [
        sixBitChar (bits / 4096),
        sixBitChar (bits / 64 % 64),
        sixBitChar (bits % 64),
        '='
      ]
  | a :: b :: c :: rest =>
      let bits := (a.toNat * 256 + b.toNat) * 256 + c.toNat
      sixBitChar (bits / 262144) :: sixBitChar (bits / 4096 % 64) ::
        sixBitChar (bits / 64 % 64) :: sixBitChar (bits % 64) :: base64 rest

end WorkflowQueue.Text
