import Mathlib.Data.List.Basic

/-!
# Texts and bytes of JavaScript

What the programs take from the language: the code units of a string, white space, the lower case of
ASCII and hex digits.
-/

namespace Lib

/-- `Uint8Array`. -/
abbrev Bytes := List UInt8

/-- The UTF-16 code units of a string, which `length` and `slice` count. -/
def codeUnits (text : String) : List Nat :=
  text.toList.flatMap fun c =>
    if c.toNat < 0x10000 then [c.toNat]
    else [0xd800 + (c.toNat - 0x10000) / 0x400, 0xdc00 + (c.toNat - 0x10000) % 0x400]

/-- White space of `trim` and `parseInt`. -/
def isJsSpace (unit : Nat) : Bool :=
  unit ∈ [0x9, 0xa, 0xb, 0xc, 0xd, 0x20, 0xa0, 0x1680, 0x2028, 0x2029, 0x202f, 0x205f, 0x3000,
    0xfeff] || (0x2000 ≤ unit && unit ≤ 0x200a)

/-- JavaScript's `trim`. -/
def jsTrim (text : String) : String :=
  let start := text.toList.dropWhile (isJsSpace ·.toNat)
  String.ofList (start.reverse.dropWhile (isJsSpace ·.toNat)).reverse

/-- `toLowerCase`, on ASCII: no other character has a hex digit as its lower case. -/
def asciiLowerCase (text : String) : String :=
  String.ofList (text.toList.map Char.toLower)

/-- The value of a hex digit, in either case. -/
def hexDigit? (unit : Nat) : Option Nat :=
  if 0x30 ≤ unit ∧ unit ≤ 0x39 then some (unit - 0x30)
  else if 0x61 ≤ unit ∧ unit ≤ 0x66 then some (unit - 0x61 + 10)
  else if 0x41 ≤ unit ∧ unit ≤ 0x46 then some (unit - 0x41 + 10)
  else none

end Lib
