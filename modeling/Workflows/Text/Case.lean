/-!
# Upper and lower case

`Text.upperChar` and `Text.lowerChar` change the case of letters of the Latin, Greek and Cyrillic
alphabets that have one counterpart; all other characters stay as they are.
-/

namespace Workflows

namespace Text

/-- Ranges of small letters with the distance down to their capitals. -/
def smallRanges : List (Nat × Nat × Nat) := [
  (0x61, 0x7a, 0x20), (0xe0, 0xf6, 0x20), (0xf8, 0xfe, 0x20), (0x3b1, 0x3c1, 0x20), (0x3c3, 0x3cb, 0x20),
  (0x430, 0x44f, 0x20), (0x450, 0x45f, 0x50)]

/-- Ranges in which capitals and small letters alternate, starting with a capital. -/
def alternatingRanges : List (Nat × Nat) := [
  (0x100, 0x12f), (0x132, 0x137), (0x139, 0x148), (0x14a, 0x177), (0x179, 0x17e), (0x460, 0x481),
  (0x48a, 0x4bf), (0x1e00, 0x1e95)]

/-- The capital of a letter. -/
def upperChar (c : Char) : Char :=
  let n := c.toNat
  match smallRanges.find? fun (a, b, _) => a ≤ n && n ≤ b with
  | some (_, _, d) => Char.ofNat (n - d)
  | none =>
    match alternatingRanges.find? fun (a, b) => a ≤ n && n ≤ b with
    | some (a, _) => if (n - a) % 2 = 1 then Char.ofNat (n - 1) else c
    | none => c

/-- The small form of a letter. -/
def lowerChar (c : Char) : Char :=
  let n := c.toNat
  match smallRanges.find? fun (a, b, d) => a ≤ n + d && n + d ≤ b with
  | some (_, _, d) => Char.ofNat (n + d)
  | none =>
    match alternatingRanges.find? fun (a, b) => a ≤ n && n ≤ b with
    | some (a, _) => if (n - a) % 2 = 0 then Char.ofNat (n + 1) else c
    | none => c

end Text

end Workflows
