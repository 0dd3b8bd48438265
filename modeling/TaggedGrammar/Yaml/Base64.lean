import TaggedGrammar.Yaml.Cursor

/-!
# Bytes written in base 64

Each character gives six bits, and every four characters three bytes. Characters outside the alphabet are
passed over. Equals signs fill the last group.
-/

namespace TaggedGrammar.Yaml.Base64

/-- The six bits that a character gives. -/
def sextet? (c : Char) : Option Nat :=
  if 'A' ≤ c ∧ c ≤ 'Z' then some (c.toNat - 'A'.toNat)
  else if 'a' ≤ c ∧ c ≤ 'z' then some (c.toNat - 'a'.toNat + 26)
  else if isDecimal c then some (c.toNat - '0'.toNat + 52)
  else if c = '+' then some 62
  else if c = '/' then some 63
  else none

/-- The bytes of a text: `group` characters of the current group are read, whose low bits `left` are not yet
part of a byte, and `pads` equals signs have come since. -/
def decode (group left pads : Nat) : List Char → Option (List UInt8)
  | [] => if group = 0 then some [] else none
  | c :: rest =>
    if c = '=' then
      if 2 ≤ group ∧ 4 ≤ group + pads + 1 then some []
      else decode group left (pads + (if 2 ≤ group then 1 else 0)) rest
    else match sextet? c with
      | none => decode group left pads rest
      | some s =>
        if group = 0 then decode 1 s 0 rest
        else if group = 1 then (decode 2 (s % 16) 0 rest).map ((left * 4 + s / 16).toUInt8 :: ·)
        else if group = 2 then (decode 3 (s % 4) 0 rest).map ((left * 16 + s / 4).toUInt8 :: ·)
        else (decode 0 0 0 rest).map ((left * 64 + s).toUInt8 :: ·)

/-- The bytes that a text stands for. -/
def read? (cs : List Char) : Option (List UInt8) :=
  if cs.all (·.toNat < 128) then decode 0 0 0 cs else none

end TaggedGrammar.Yaml.Base64
