import Mathlib.Tactic.IntervalCases
import Signet.Lib.JsText

/-!
# Strings in JSON texts

A JavaScript string is a list of UTF-16 code units, and need not be the encoding of a text: a
surrogate may stand alone. `JSON.stringify` escapes these, so that its texts are made of characters.

* `readString_quote`: a quoted string is read back, code unit by code unit.
* `toText_ofText`: a text comes back from its code units.

What is escaped is read as the unit it was (`readUnit_escapeUnit`), and two surrogates that form a
pair are one character (`readUnit_pair`).
-/

namespace Lib

/-- The code units of a string. -/
abbrev JsString := List UInt16

/-- The quotation mark. -/
def quotation : Char := Char.ofNat 0x22

/-- The backslash. -/
def reverseSolidus : Char := Char.ofNat 0x5c

/-- The first half of a pair. -/
def isHighSurrogate (u : UInt16) : Bool := 0xd800 ≤ u.toNat && u.toNat < 0xdc00

/-- The second half of a pair. -/
def isLowSurrogate (u : UInt16) : Bool := 0xdc00 ≤ u.toNat && u.toNat < 0xe000

def pairChar (high low : UInt16) : Char :=
  Char.ofNat (0x10000 + (high.toNat - 0xd800) * 0x400 + (low.toNat - 0xdc00))

def utf16Units (c : Char) : JsString :=
  if c.toNat < 0x10000 then [UInt16.ofNat c.toNat]
  else
    [UInt16.ofNat (0xd800 + (c.toNat - 0x10000) / 0x400),
      UInt16.ofNat (0xdc00 + (c.toNat - 0x10000) % 0x400)]

/-! ### Quoting -/

def unicodeEscape (u : UInt16) : List Char :=
  [reverseSolidus, 'u', Nat.digitChar (u.toNat / 0x1000), Nat.digitChar (u.toNat / 0x100 % 0x10),
    Nat.digitChar (u.toNat / 0x10 % 0x10), Nat.digitChar (u.toNat % 0x10)]

/-- One code unit that is not a part of a pair. -/
def escapeUnit (u : UInt16) : List Char :=
  match u.toNat with
  | 0x08 => [reverseSolidus, 'b']
  | 0x09 => [reverseSolidus, 't']
  | 0x0a => [reverseSolidus, 'n']
  | 0x0c => [reverseSolidus, 'f']
  | 0x0d => [reverseSolidus, 'r']
  | 0x22 => [reverseSolidus, quotation]
  | 0x5c => [reverseSolidus, reverseSolidus]
  | n =>
    if n < 0x20 ∨ isHighSurrogate u ∨ isLowSurrogate u then unicodeEscape u else [Char.ofNat n]

/-- The code units between the quotation marks. -/
def escapeUnits : JsString → List Char
  | [] => []
  | [u] => escapeUnit u
  | u :: v :: rest =>
    if isHighSurrogate u ∧ isLowSurrogate v then pairChar u v :: escapeUnits rest
    else escapeUnit u ++ escapeUnits (v :: rest)

/-- `QuoteJSONString`. -/
def quoteString (s : JsString) : List Char :=
  quotation :: (escapeUnits s ++ [quotation])

/-! ### Reading -/

/-- The code unit of four hexadecimal digits. -/
def readHex : List Char → Option (JsString × List Char)
  | c₃ :: c₂ :: c₁ :: c₀ :: rest =>
    match hexDigit? c₃.toNat, hexDigit? c₂.toNat, hexDigit? c₁.toNat, hexDigit? c₀.toNat with
    | some d₃, some d₂, some d₁, some d₀ =>
      some ([UInt16.ofNat (((d₃ * 0x10 + d₂) * 0x10 + d₁) * 0x10 + d₀)], rest)
    | _, _, _, _ => none
  | _ => none

/-- What comes after a backslash. -/
def readEscape : List Char → Option (JsString × List Char)
  | 'b' :: rest => some ([0x08], rest)
  | 't' :: rest => some ([0x09], rest)
  | 'n' :: rest => some ([0x0a], rest)
  | 'f' :: rest => some ([0x0c], rest)
  | 'r' :: rest => some ([0x0d], rest)
  | 'u' :: rest => readHex rest
  | '/' :: rest => some ([0x2f], rest)
  | c :: rest =>
    if c = quotation then some ([0x22], rest)
    else if c = reverseSolidus then some ([0x5c], rest)
    else none
  | [] => none

/-- One character of a string, escaped or not. -/
def readUnit : List Char → Option (JsString × List Char)
  | [] => none
  | c :: rest =>
    if c = reverseSolidus then readEscape rest
    else if c.toNat < 0x20 then none
    else some (utf16Units c, rest)

/-- The characters up to the closing quotation mark, at most so many of them. -/
def readUnits : Nat → List Char → Option (JsString × List Char)
  | 0, _ => none
  | fuel + 1, text =>
    if text.head? = some quotation then some ([], text.tail)
    else
      match readUnit text with
      | none => none
      | some (units, rest) => (readUnits fuel rest).map fun (s, rest) => (units ++ s, rest)

/-- The string after an opening quotation mark. Every character of it takes one of the text, so
that the length of the text is enough. -/
def readString (text : List Char) : Option (JsString × List Char) :=
  readUnits text.length text

/-! ### What was quoted is read back -/

theorem hexDigit?_digitChar : ∀ d < 0x10, hexDigit? (Nat.digitChar d).toNat = some d := by decide

/-- A quotation mark closes a string, so no character of one begins with it. -/
theorem readUnit_unicodeEscape (u : UInt16) (rest : List Char) :
    readUnit (unicodeEscape u ++ rest) = some ([u], rest) := by
  have hlt : u.toNat < 0x10000 := u.toNat_lt
  have hread : readHex
      (Nat.digitChar (u.toNat / 0x1000) :: Nat.digitChar (u.toNat / 0x100 % 0x10) ::
      Nat.digitChar (u.toNat / 0x10 % 0x10) :: Nat.digitChar (u.toNat % 0x10) :: rest) =
      some ([u], rest) := by
    have hvalue : ((u.toNat / 0x1000 * 0x10 + u.toNat / 0x100 % 0x10) * 0x10 +
        u.toNat / 0x10 % 0x10) * 0x10 + u.toNat % 0x10 = u.toNat := by omega
    have h₃ := hexDigit?_digitChar (u.toNat / 0x1000) (by omega)
    have h₂ := hexDigit?_digitChar (u.toNat / 0x100 % 0x10) (by omega)
    have h₁ := hexDigit?_digitChar (u.toNat / 0x10 % 0x10) (by omega)
    have h₀ := hexDigit?_digitChar (u.toNat % 0x10) (by omega)
    simp only [readHex, h₃, h₂, h₁, h₀, hvalue, UInt16.ofNat_toNat]
  exact hread

theorem toNat_charOfNat {n : Nat} (h : n < 0xd800 ∨ (0xe000 ≤ n ∧ n < 0x110000)) :
    (Char.ofNat n).toNat = n := by
  have hvalid : n.isValidChar := by
    rcases h with h | h
    · exact Or.inl h
    · exact Or.inr ⟨by omega, h.2⟩
  unfold Char.ofNat
  rw [dif_pos hvalid]
  rfl

/-- What stands for a code unit does not begin with the mark that closes the string. -/
theorem escapeUnit_eq_cons (u : UInt16) :
    ∃ c text, escapeUnit u = c :: text ∧ c ≠ quotation := by
  have hsolidus : reverseSolidus ≠ quotation := by decide
  unfold escapeUnit
  split
  case h_8 =>
    next hmark _ =>
    split
    · exact ⟨reverseSolidus, _, rfl, hsolidus⟩
    · next hplain =>
      refine ⟨_, _, rfl, fun heq => hmark ?_⟩
      have hnot : ¬ (0xd800 ≤ u.toNat ∧ u.toNat < 0xe000) := by
        simp only [isHighSurrogate, isLowSurrogate, Bool.and_eq_true, decide_eq_true_eq] at hplain
        omega
      have hvalue := toNat_charOfNat (n := u.toNat) (by have := u.toNat_lt; omega)
      rw [heq] at hvalue
      exact hvalue.symm
  all_goals exact ⟨reverseSolidus, _, rfl, hsolidus⟩

/-- **A code unit that stands alone is read back.** -/
theorem readUnit_escapeUnit (u : UInt16) (rest : List Char) :
    readUnit (escapeUnit u ++ rest) = some ([u], rest) := by
  unfold escapeUnit
  split
  case h_8 =>
    next hslash =>
    split
    · exact readUnit_unicodeEscape u rest
    · next hplain =>
      simp only [isHighSurrogate, isLowSurrogate, Bool.and_eq_true, decide_eq_true_eq] at hplain
      have hlt := u.toNat_lt
      have hvalue := toNat_charOfNat (n := u.toNat) (by omega)
      have hne : Char.ofNat u.toNat ≠ reverseSolidus := by
        intro heq
        rw [heq] at hvalue
        exact hslash hvalue.symm
      rw [List.singleton_append, readUnit, if_neg hne, hvalue, if_neg (by omega), utf16Units,
        hvalue, if_pos (by omega), UInt16.ofNat_toNat]
  -- the characters that have an escape of their own
  all_goals
    next hvalue =>
    have hu : UInt16.ofNat u.toNat = u := UInt16.ofNat_toNat
    rw [hvalue] at hu
    rw [← hu]
    rfl

/-- **Two halves of a pair are one character.** -/
theorem readUnit_pair {u v : UInt16} (hu : isHighSurrogate u = true) (hv : isLowSurrogate v = true)
    (rest : List Char) : pairChar u v ≠ quotation ∧
      readUnit (pairChar u v :: rest) = some ([u, v], rest) := by
  simp only [isHighSurrogate, isLowSurrogate, Bool.and_eq_true, decide_eq_true_eq] at hu hv
  have hvalue : (pairChar u v).toNat =
      0x10000 + (u.toNat - 0xd800) * 0x400 + (v.toNat - 0xdc00) := toNat_charOfNat (by omega)
  have hlarge : 0x10000 ≤ (pairChar u v).toNat := by omega
  have hhigh : 0xd800 + ((pairChar u v).toNat - 0x10000) / 0x400 = u.toNat := by omega
  have hlow : 0xdc00 + ((pairChar u v).toNat - 0x10000) % 0x400 = v.toNat := by omega
  have hmark : pairChar u v ≠ quotation := by
    intro heq
    rw [heq] at hlarge
    exact absurd hlarge (by decide)
  have hslash : pairChar u v ≠ reverseSolidus := by
    intro heq
    rw [heq] at hlarge
    exact absurd hlarge (by decide)
  refine ⟨hmark, ?_⟩
  rw [readUnit, if_neg hslash, if_neg (by omega), utf16Units, if_neg (by omega), hhigh, hlow,
    UInt16.ofNat_toNat, UInt16.ofNat_toNat]

theorem readUnits_step {fuel : Nat} {text rest after : List Char} {units s : JsString}
    (hmark : text.head? ≠ some quotation) (hread : readUnit text = some (units, rest))
    (hrest : readUnits fuel rest = some (s, after)) :
    readUnits (fuel + 1) text = some (units ++ s, after) := by
  rw [readUnits, if_neg hmark, hread]
  dsimp only
  rw [hrest, Option.map_some]

theorem readUnits_escapeUnits (s : JsString) (rest : List Char) (fuel : Nat)
    (hfuel : (escapeUnits s).length < fuel) :
    readUnits fuel (escapeUnits s ++ quotation :: rest) = some (s, rest) := by
  induction s using escapeUnits.induct generalizing fuel with
  | case1 =>
    obtain ⟨fuel, rfl⟩ := Nat.exists_eq_succ_of_ne_zero (Nat.ne_of_gt (Nat.zero_lt_of_lt hfuel))
    rw [escapeUnits, List.nil_append, readUnits, List.head?_cons, if_pos rfl, List.tail_cons]
  | case2 u =>
    rw [escapeUnits] at hfuel ⊢
    obtain ⟨c, text, htext, hc⟩ := escapeUnit_eq_cons u
    have hhead : (escapeUnit u ++ quotation :: rest).head? ≠ some quotation := by
      rw [htext, List.cons_append, List.head?_cons]
      exact fun heq => hc (Option.some.inj heq)
    have hlength : 0 < (escapeUnit u).length := by
      rw [htext]
      exact Nat.succ_pos _
    obtain ⟨fuel, rfl⟩ : ∃ k, fuel = k + 1 + 1 := ⟨fuel - 2, by omega⟩
    have hclose : readUnits (fuel + 1) (quotation :: rest) = some ([], rest) := by
      rw [readUnits, List.head?_cons, if_pos rfl, List.tail_cons]
    exact readUnits_step hhead (readUnit_escapeUnit u _) hclose
  | case3 u v s hpair ih =>
    obtain ⟨hmark, hread⟩ := readUnit_pair hpair.1 hpair.2 (escapeUnits s ++ quotation :: rest)
    rw [escapeUnits, if_pos hpair] at hfuel ⊢
    rw [List.length_cons] at hfuel
    obtain ⟨fuel, rfl⟩ : ∃ k, fuel = k + 1 := ⟨fuel - 1, by omega⟩
    have hhead : (pairChar u v :: (escapeUnits s ++ quotation :: rest)).head? ≠ some quotation := by
      rw [List.head?_cons]
      exact fun heq => hmark (Option.some.inj heq)
    exact readUnits_step hhead hread (ih fuel (by omega))
  | case4 u v s hpair ih =>
    rw [escapeUnits, if_neg hpair] at hfuel ⊢
    obtain ⟨c, text, htext, hc⟩ := escapeUnit_eq_cons u
    have hhead : (escapeUnit u ++ (escapeUnits (v :: s) ++ quotation :: rest)).head? ≠
        some quotation := by
      rw [htext, List.cons_append, List.head?_cons]
      exact fun heq => hc (Option.some.inj heq)
    have hlength : 0 < (escapeUnit u).length := by
      rw [htext]
      exact Nat.succ_pos _
    rw [List.length_append] at hfuel
    obtain ⟨fuel, rfl⟩ : ∃ k, fuel = k + 1 := ⟨fuel - 1, by omega⟩
    rw [List.append_assoc]
    exact readUnits_step hhead (readUnit_escapeUnit u _) (ih fuel (by omega))

/-- **A quoted string is read back.** -/
theorem readString_quote (s : JsString) (rest : List Char) :
    readString (escapeUnits s ++ quotation :: rest) = some (s, rest) := by
  unfold readString
  refine readUnits_escapeUnits s rest _ ?_
  rw [List.length_append, List.length_cons]
  omega

/-! ### Texts -/

def ofText (chars : List Char) : JsString := chars.flatMap utf16Units

/-- The character of a code unit that is not a part of a pair; half a pair is replaced. -/
def unitChar (u : UInt16) : Char :=
  if isHighSurrogate u ∨ isLowSurrogate u then '\uFFFD' else Char.ofNat u.toNat

def toText : JsString → List Char
  | [] => []
  | [u] => [unitChar u]
  | u :: v :: rest =>
    if isHighSurrogate u ∧ isLowSurrogate v then pairChar u v :: toText rest
    else unitChar u :: toText (v :: rest)

theorem toText_cons {u : UInt16} (h : isHighSurrogate u = false) (rest : JsString) :
    toText (u :: rest) = unitChar u :: toText rest := by
  cases rest with
  | nil => rfl
  | cons v rest =>
    refine if_neg fun hpair => ?_
    rw [h] at hpair
    exact Bool.false_ne_true hpair.1

/-- The code units of a character are read as this character. -/
theorem toText_utf16Units (c : Char) (rest : JsString) :
    toText (utf16Units c ++ rest) = c :: toText rest := by
  have hvalid : c.toNat < 0xd800 ∨ 0xdfff < c.toNat ∧ c.toNat < 0x110000 := c.valid
  unfold utf16Units
  split
  · next hsmall =>
    -- a unit of its own, and not half a pair
    have hvalue : (UInt16.ofNat c.toNat).toNat = c.toNat := by
      rw [UInt16.toNat_ofNat']
      exact Nat.mod_eq_of_lt hsmall
    have hhigh : isHighSurrogate (UInt16.ofNat c.toNat) = false := by
      rw [isHighSurrogate, hvalue, Bool.and_eq_false_iff, decide_eq_false_iff_not,
        decide_eq_false_iff_not]
      omega
    have hlow : isLowSurrogate (UInt16.ofNat c.toNat) = false := by
      rw [isLowSurrogate, hvalue, Bool.and_eq_false_iff, decide_eq_false_iff_not,
        decide_eq_false_iff_not]
      omega
    rw [List.singleton_append, toText_cons hhigh, unitChar, hhigh, hlow, hvalue,
      if_neg (not_or_intro Bool.false_ne_true Bool.false_ne_true), Char.ofNat_toNat]
  · next hlarge =>
    have hhigh : (UInt16.ofNat (0xd800 + (c.toNat - 0x10000) / 0x400)).toNat =
        0xd800 + (c.toNat - 0x10000) / 0x400 := by
      rw [UInt16.toNat_ofNat']
      exact Nat.mod_eq_of_lt (by omega)
    have hlow : (UInt16.ofNat (0xdc00 + (c.toNat - 0x10000) % 0x400)).toNat =
        0xdc00 + (c.toNat - 0x10000) % 0x400 := by
      rw [UInt16.toNat_ofNat']
      exact Nat.mod_eq_of_lt (by omega)
    have hpair : isHighSurrogate (UInt16.ofNat (0xd800 + (c.toNat - 0x10000) / 0x400)) = true ∧
        isLowSurrogate (UInt16.ofNat (0xdc00 + (c.toNat - 0x10000) % 0x400)) = true := by
      rw [isHighSurrogate, isLowSurrogate, hhigh, hlow]
      simp only [Bool.and_eq_true, decide_eq_true_eq]
      omega
    have hvalue : 0x10000 + (0xd800 + (c.toNat - 0x10000) / 0x400 - 0xd800) * 0x400 +
        (0xdc00 + (c.toNat - 0x10000) % 0x400 - 0xdc00) = c.toNat := by omega
    show toText (_ :: _ :: rest) = _
    rw [toText, if_pos hpair, pairChar, hhigh, hlow, hvalue, Char.ofNat_toNat]

/-- **A text comes back from its code units.** -/
theorem toText_ofText (chars : List Char) : toText (ofText chars) = chars := by
  induction chars with
  | nil => rfl
  | cons c chars ih =>
    calc toText (ofText (c :: chars))
        = toText (utf16Units c ++ ofText chars) := by rw [ofText, List.flatMap_cons, ofText]
      _ = c :: toText (ofText chars) := toText_utf16Units c _
      _ = c :: chars := by rw [ih]

end Lib
