/-!
# Base64

Bytes written in groups of four characters, six bits each. Characters outside of the alphabet are
passed over, and equals signs that fill the last group up end the text. A group that is left
unfinished is a fault.
-/

namespace RuleFit.Text

/-- The bits that a character of the alphabet stands for. -/
def sixBits? (c : Char) : Option Nat :=
  if 'A' ≤ c ∧ c ≤ 'Z' then some (c.toNat - 'A'.toNat)
  else if 'a' ≤ c ∧ c ≤ 'z' then some (c.toNat - 'a'.toNat + 26)
  else if '0' ≤ c ∧ c ≤ '9' then some (c.toNat - '0'.toNat + 52)
  else if c = '+' then some 62
  else if c = '/' then some 63
  else none

/-- Reads on with `group` characters of a group passed, whose bits that make no byte yet are `bits`,
and `fills` equals signs behind them. -/
def base64From (done : List UInt8) (group bits fills : Nat) : List Char → Option (List UInt8)
  | [] => if group = 0 then some done.reverse else none
  | c :: cs =>
    if c = '=' then
      if 2 ≤ group then
        if 4 ≤ group + fills + 1 then some done.reverse
        else base64From done group bits (fills + 1) cs
      else base64From done group bits fills cs
    else
      match sixBits? c with
      | none => base64From done group bits fills cs
      | some six =>
        let all := bits * 64 + six
        match group with
        | 0 => base64From done 1 six 0 cs
        | 1 => base64From ((all / 16).toUInt8 :: done) 2 (all % 16) 0 cs
        | 2 => base64From ((all / 4).toUInt8 :: done) 3 (all % 4) 0 cs
        | _ => base64From (all.toUInt8 :: done) 0 0 0 cs

/-- The bytes that a text stands for. -/
def decodeBase64? (cs : List Char) : Option (List UInt8) := base64From [] 0 0 0 cs

end RuleFit.Text
