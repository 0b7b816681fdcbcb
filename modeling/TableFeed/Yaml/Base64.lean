import TableFeed.Text.Digit

/-!
# Octets in base 64

Four characters write three octets.  Characters outside the alphabet are passed over.  The mark at
the end says how many octets the last four characters write; it counts only where it completes them.
-/

namespace TableFeed.Yaml

/-- The value of a character of the alphabet. -/
def sextet? (c : Char) : Option Nat :=
  if 'A' ≤ c ∧ c ≤ 'Z' then some (c.toNat - 65)
  else if 'a' ≤ c ∧ c ≤ 'z' then some (c.toNat - 71)
  else if '0' ≤ c ∧ c ≤ '9' then some (c.toNat + 4)
  else if c = '+' then some 62
  else if c = '/' then some 63
  else none

/-- Decodes characters after those of a group of four that were read already: how many, the bits
that they left, and the marks since the last of them. -/
def decodeGroups (before : List UInt8) (count bits marks : Nat) : List Char → Option (List UInt8)
  | [] => if count = 0 then some before.reverse else none
  | c :: rest =>
    if c = '=' then
      if 2 ≤ count then
        if 4 ≤ count + marks + 1 then some before.reverse
        else decodeGroups before count bits (marks + 1) rest
      else decodeGroups before count bits marks rest
    else match sextet? c with
      | none => decodeGroups before count bits marks rest
      | some n =>
        match count with
        | 0 => decodeGroups before 1 n 0 rest
        | 1 => decodeGroups (UInt8.ofNat (bits * 4 + n / 16) :: before) 2 (n % 16) 0 rest
        | 2 => decodeGroups (UInt8.ofNat (bits * 16 + n / 4) :: before) 3 (n % 4) 0 rest
        | _ => decodeGroups (UInt8.ofNat (bits * 64 + n) :: before) 0 0 0 rest

/-- Decodes a text of the ASCII range. -/
def decodeBase64? (cs : List Char) : Option (List UInt8) :=
  if cs.all (·.toNat < 128) then decodeGroups [] 0 0 0 cs else none

end TableFeed.Yaml
