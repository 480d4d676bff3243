import Mathlib.Data.List.DropRight
import Mathlib.Data.List.TakeWhile

/-!
# Numbers in JSON texts

A finite JavaScript number is told by the decimal that `Number::toString` prints of it, the shortest
one that is read back as the number. So a number is such a decimal here, or one of the two zeros,
and rounding to the nearest number leaves it as it is.

* `readNumber_text`: what was printed is read back, whatever comes after it, provided that this
  could not be a part of a number (`EndsNumber`).

The five forms of `Number::toString` only differ in where the point stands and which zeros surround
the digits; `ofDigits_decimal` says that neither is lost.
-/

namespace Lib

/-- A decimal other than zero: its digits stand behind the point, which is moved by `point`. -/
@[ext]
structure Decimal where
  negative : Bool
  digits : List (Fin 10)
  point : Int
  nonempty : digits ≠ []
  first : ∀ d ∈ digits.head?, d ≠ 0
  last : ∀ d ∈ digits.getLast?, d ≠ 0

/-- A finite number. -/
inductive JsNumber where
  | zero (negative : Bool)
  | decimal (value : Decimal)

/-- `===`: there is one zero. -/
def JsNumber.StrictEq : JsNumber → JsNumber → Prop
  | .zero _, .zero _ => True
  | .decimal value, .decimal value' => value = value'
  | _, _ => False

/-! ### Printing -/

def digitChar (d : Fin 10) : Char := Nat.digitChar d

def signText (negative : Bool) : List Char := if negative then ['-'] else []

/-- The exponent, always with its sign. -/
def exponentText (exponent : Int) : List Char :=
  'e' :: (if 0 ≤ exponent then '+' else '-') :: Nat.toDigits 10 exponent.natAbs

/-- The text of a decimal without its sign. -/
def Decimal.unsignedText (value : Decimal) : List Char :=
  let digits := value.digits.map digitChar
  if value.digits.length ≤ value.point ∧ value.point ≤ 21 then
    digits ++ List.replicate (value.point - value.digits.length).toNat '0'
  else if 0 < value.point ∧ value.point ≤ 21 then
    digits.take value.point.toNat ++ '.' :: digits.drop value.point.toNat
  else if -6 < value.point ∧ value.point ≤ 0 then
    '0' :: '.' :: (List.replicate (-value.point).toNat '0' ++ digits)
  else if value.digits.length = 1 then
    digits ++ exponentText (value.point - 1)
  else
    digits.take 1 ++ '.' :: (digits.drop 1 ++ exponentText (value.point - 1))

/-- `Number::toString` in base 10. -/
def JsNumber.text : JsNumber → List Char
  | .zero _ => ['0']
  | .decimal value => signText value.negative ++ value.unsignedText

/-! ### Reading -/

/-- The value of a digit. -/
def digitOf (c : Char) : Fin 10 := Fin.ofNat 10 (c.toNat - 0x30)

/-- The number of the digits, with the point behind so many of them. -/
def JsNumber.ofDigits (negative : Bool) (digits : List (Fin 10)) (point : Int) : JsNumber :=
  let leading := digits.dropWhile (· == 0)
  if hzero : leading.rdropWhile (· == 0) = [] then .zero negative
  else .decimal
    { negative
      digits := leading.rdropWhile (· == 0)
      point := point - (digits.length - leading.length)
      nonempty := hzero
      first := by
        intro d hd hd0
        obtain ⟨rest, hrest⟩ : ∃ rest, leading.rdropWhile (· == 0) = d :: rest :=
          List.head?_eq_some_iff.1 hd
        -- the first digit that was kept is the first one that is not zero
        obtain ⟨tail, htail⟩ := List.rdropWhile_prefix (· == 0) (l := leading)
        rw [hrest, List.cons_append] at htail
        have hhead := List.head?_dropWhile_not (· == (0 : Fin 10)) digits
        rw [show digits.dropWhile (· == 0) = leading from rfl, ← htail] at hhead
        simp [hd0] at hhead
      last := by
        intro d hd hd0
        have hlast := List.rdropWhile_last_not (· == (0 : Fin 10)) leading hzero
        rw [List.getLast?_eq_some_getLast hzero] at hd
        simp only [Option.mem_def, Option.some.injEq] at hd
        rw [hd, hd0] at hlast
        exact hlast rfl }

/-- The digits at the beginning of a text, at least one. -/
def readDigits (text : List Char) : Option (List Char × List Char) :=
  if text.takeWhile Char.isDigit = [] then none
  else some (text.takeWhile Char.isDigit, text.dropWhile Char.isDigit)

/-- The digits before the point: no zero comes before another digit. -/
def readInteger : List Char → Option (List Char × List Char)
  | '0' :: rest => some (['0'], rest)
  | text => readDigits text

/-- The point and the digits behind it. -/
def readFraction : List Char → Option (List Char × List Char)
  | '.' :: rest => readDigits rest
  | text => some ([], text)

/-- A sign, or none. -/
def readSign : List Char → Bool × List Char
  | '-' :: rest => (true, rest)
  | '+' :: rest => (false, rest)
  | text => (false, text)

def readExponent : List Char → Option (Int × List Char)
  | [] => some (0, [])
  | c :: rest =>
    if c = 'e' ∨ c = 'E' then
      (readDigits (readSign rest).2).map fun (digits, text) =>
        let exponent := Nat.ofDigitChars 10 digits 0
        (if (readSign rest).1 then -(exponent : Int) else exponent, text)
    else some (0, c :: rest)

/-- The number after its sign. -/
def readUnsigned (negative : Bool) (text : List Char) : Option (JsNumber × List Char) :=
  match readInteger text with
  | none => none
  | some (integer, text) =>
    match readFraction text with
    | none => none
    | some (fraction, text) =>
      (readExponent text).map fun (exponent, text) =>
        (.ofDigits negative ((integer ++ fraction).map digitOf) (integer.length + exponent), text)

/-- The number at the beginning of a text. -/
def readNumber : List Char → Option (JsNumber × List Char)
  | '-' :: text => readUnsigned true text
  | text => readUnsigned false text

/-! ### What was printed is read back -/

/-- The number that is read back. -/
def JsNumber.asRead : JsNumber → JsNumber
  | .zero _ => .zero false
  | .decimal value => .decimal value

/-- Text that could not be a part of the number before it. -/
def EndsNumber (rest : List Char) : Prop :=
  ∀ c ∈ rest.head?, c.isDigit = false ∧ c ≠ '.' ∧ c ≠ 'e' ∧ c ≠ 'E'

theorem endsNumber_nil : EndsNumber [] := by
  intro c hc
  cases hc

/-- Numbers are equal exactly if they are read back as the same number. -/
theorem strictEq_iff {x y : JsNumber} : x.StrictEq y ↔ x.asRead = y.asRead := by
  cases x <;> cases y <;> simp [JsNumber.StrictEq, JsNumber.asRead]

/-- There is no text for a negative zero. -/
theorem text_asRead (x : JsNumber) : x.asRead.text = x.text := by
  cases x <;> rfl

theorem asRead_asRead (x : JsNumber) : x.asRead.asRead = x.asRead := by
  cases x <;> rfl

theorem digitOf_digitChar : ∀ d, digitOf (digitChar d) = d := by decide

theorem isDigit_digitChar : ∀ d, (digitChar d).isDigit = true := by decide

theorem digitChar_ne_zero : ∀ d, d ≠ 0 → digitChar d ≠ '0' := by decide

theorem map_digitOf (digits : List (Fin 10)) : (digits.map digitChar).map digitOf = digits := by
  rw [List.map_map]
  calc digits.map (digitOf ∘ digitChar) = digits.map id :=
        List.map_congr_left fun d _ => digitOf_digitChar d
    _ = digits := List.map_id digits

theorem isDigit_of_mem_map {digits : List (Fin 10)} : ∀ c ∈ digits.map digitChar,
    c.isDigit = true := by
  intro c hc
  obtain ⟨d, -, rfl⟩ := List.mem_map.1 hc
  exact isDigit_digitChar d

theorem readDigits_append {digits rest : List Char} (hne : digits ≠ [])
    (hdigits : ∀ c ∈ digits, c.isDigit = true) (hrest : ∀ c ∈ rest.head?, c.isDigit = false) :
    readDigits (digits ++ rest) = some (digits, rest) := by
  have htake : rest.takeWhile Char.isDigit = [] ∧ rest.dropWhile Char.isDigit = rest := by
    cases rest with
    | nil => exact ⟨rfl, rfl⟩
    | cons c rest =>
      have hc : ¬ c.isDigit = true := by
        rw [hrest c rfl]
        exact Bool.false_ne_true
      exact ⟨List.takeWhile_cons_of_neg hc, List.dropWhile_cons_of_neg hc⟩
  unfold readDigits
  rw [List.takeWhile_append_of_pos hdigits, List.dropWhile_append_of_pos hdigits, htake.1, htake.2,
    List.append_nil, if_neg hne]

/-- The digits of a decimal do not begin with a zero, so they are read to their end. -/
theorem readInteger_append {digits : List (Fin 10)} {rest : List Char} (hne : digits ≠ [])
    (hfirst : ∀ d ∈ digits.head?, d ≠ 0) (hrest : ∀ c ∈ rest.head?, c.isDigit = false) :
    readInteger (digits.map digitChar ++ rest) = some (digits.map digitChar, rest) := by
  cases digits with
  | nil => exact absurd rfl hne
  | cons d digits =>
    have hzero : digitChar d ≠ '0' := digitChar_ne_zero d (hfirst d rfl)
    have hmap : (d :: digits).map digitChar ≠ [] := List.cons_ne_nil _ _
    have hread := readDigits_append hmap isDigit_of_mem_map hrest
    rw [List.map_cons, List.cons_append] at hread ⊢
    unfold readInteger
    split
    · next heq => exact absurd (List.cons.inj heq).1 hzero
    · exact hread

theorem readFraction_none {rest : List Char} (h : '.' ∉ rest.head?) :
    readFraction rest = some ([], rest) := by
  unfold readFraction
  split
  · exact absurd rfl h
  · rfl

theorem readExponent_none {rest : List Char} (he : 'e' ∉ rest.head?) (hE : 'E' ∉ rest.head?) :
    readExponent rest = some (0, rest) := by
  cases rest with
  | nil => rfl
  | cons c rest =>
    have hc : ¬ (c = 'e' ∨ c = 'E') := by
      rintro (rfl | rfl)
      · exact he rfl
      · exact hE rfl
    rw [readExponent, if_neg hc]

theorem readExponent_append (exponent : Int) {rest : List Char}
    (hrest : ∀ c ∈ rest.head?, c.isDigit = false) :
    readExponent (exponentText exponent ++ rest) = some (exponent, rest) := by
  have hdigits : readDigits (Nat.toDigits 10 exponent.natAbs ++ rest) =
      some (Nat.toDigits 10 exponent.natAbs, rest) :=
    readDigits_append Nat.toDigits_ne_nil
      (fun c hc => Nat.isDigit_of_mem_toDigits (by decide) (by decide) hc) hrest
  unfold exponentText
  rw [List.cons_append, List.cons_append, readExponent, if_pos (Or.inl rfl)]
  by_cases hsign : 0 ≤ exponent
  · rw [if_pos hsign]
    simp only [readSign, hdigits, Option.map_some, Nat.ofDigitChars_ten_toDigits]
    simp only [Bool.false_eq_true, if_false, Int.natAbs_of_nonneg hsign]
  · rw [if_neg hsign]
    simp only [readSign, hdigits, Option.map_some, Nat.ofDigitChars_ten_toDigits]
    have habs : -(exponent.natAbs : Int) = exponent := by omega
    simp only [if_true, habs]

theorem dropWhile_zeros (value : Decimal) (zeros trailing : Nat) :
    (List.replicate zeros 0 ++ (value.digits ++ List.replicate trailing 0)).dropWhile (· == 0) =
      value.digits ++ List.replicate trailing 0 := by
  have hzeros : ∀ d ∈ List.replicate zeros (0 : Fin 10), (d == 0) = true := by
    intro d hd
    rw [List.eq_of_mem_replicate hd]
    rfl
  rw [List.dropWhile_append_of_pos hzeros]
  obtain ⟨d, digits, hdigits⟩ := List.exists_cons_of_ne_nil value.nonempty
  have hd : ¬ (d == 0) = true := by
    rw [beq_iff_eq]
    exact value.first d (by rw [hdigits]; rfl)
  rw [hdigits, List.cons_append]
  exact List.dropWhile_cons_of_neg hd

theorem rdropWhile_zeros (value : Decimal) (trailing : Nat) :
    (value.digits ++ List.replicate trailing 0).rdropWhile (· == 0) = value.digits := by
  induction trailing with
  | zero =>
    rw [List.replicate_zero, List.append_nil, List.rdropWhile_eq_self_iff]
    intro hne hzero
    exact value.last _ (List.getLast?_eq_some_getLast hne) (by simpa using hzero)
  | succ trailing ih =>
    rw [List.replicate_succ', ← List.append_assoc, List.rdropWhile_concat]
    exact (if_pos rfl).trans ih

/-- **Zeros around the digits are dropped**, and those before them move the point. -/
theorem ofDigits_decimal (value : Decimal) (zeros trailing : Nat) :
    JsNumber.ofDigits value.negative
        (List.replicate zeros 0 ++ (value.digits ++ List.replicate trailing 0))
        (value.point + zeros) = .decimal value := by
  have hleading := dropWhile_zeros value zeros trailing
  have hkept := rdropWhile_zeros value trailing
  unfold JsNumber.ofDigits
  dsimp only
  rw [dif_neg (by rw [hleading, hkept]; exact value.nonempty)]
  congr 1
  refine Decimal.ext rfl ?_ ?_
  · show List.rdropWhile _ (List.dropWhile _ _) = _
    rw [hleading, hkept]
  · show value.point + zeros - _ = value.point
    rw [hleading]
    simp only [List.length_append, List.length_replicate]
    omega

theorem readNumber_parts (negative : Bool) {text integer afterInteger fraction afterFraction
    rest : List Char} {exponent : Int} (hsign : '-' ∉ text.head?)
    (hinteger : readInteger text = some (integer, afterInteger))
    (hfraction : readFraction afterInteger = some (fraction, afterFraction))
    (hexponent : readExponent afterFraction = some (exponent, rest)) :
    readNumber (signText negative ++ text) =
      some (.ofDigits negative ((integer ++ fraction).map digitOf) (integer.length + exponent),
        rest) := by
  have hparts : readUnsigned negative text =
      some (.ofDigits negative ((integer ++ fraction).map digitOf) (integer.length + exponent),
        rest) := by
    unfold readUnsigned
    rw [hinteger]
    dsimp only
    rw [hfraction]
    dsimp only
    rw [hexponent, Option.map_some]
  cases negative with
  | true => exact hparts
  | false =>
    unfold readNumber
    rw [signText, if_neg Bool.false_ne_true, List.nil_append]
    split
    · exact absurd rfl hsign
    · exact hparts

/-- How the digits of a decimal are found in its text: in which parts they stand, and how many zeros
come before and after them. -/
def Decimal.Found (value : Decimal) (text rest : List Char) : Prop :=
  ∃ integer afterInteger fraction afterFraction exponent zeros trailing,
    readInteger text = some (integer, afterInteger) ∧
      readFraction afterInteger = some (fraction, afterFraction) ∧
      readExponent afterFraction = some (exponent, rest) ∧
      (integer ++ fraction).map digitOf =
        List.replicate zeros 0 ++ (value.digits ++ List.replicate trailing 0) ∧
      integer.length + exponent = value.point + zeros

theorem head?_take {digits : List (Fin 10)} {n : Nat} (h : 0 < n) :
    (digits.take n).head? = digits.head? := by
  obtain ⟨n, rfl⟩ := Nat.exists_eq_succ_of_ne_zero (Nat.ne_of_gt h)
  cases digits <;> rfl

/-- The digits stand on both sides of the point. -/
theorem Decimal.found_point (value : Decimal) {n : Nat} {exponent : Int} {after rest : List Char}
    (hpos : 0 < n) (hlt : n < value.digits.length) (hdigit : ∀ c ∈ after.head?, c.isDigit = false)
    (hexponent : readExponent after = some (exponent, rest)) (hpoint : n + exponent = value.point) :
    value.Found ((value.digits.take n).map digitChar ++
      '.' :: ((value.digits.drop n).map digitChar ++ after)) rest := by
  have hbefore : value.digits.take n ≠ [] := by
    rw [Ne, List.take_eq_nil_iff]
    rintro (rfl | hnil)
    · exact Nat.lt_irrefl 0 hpos
    · exact value.nonempty hnil
  have hbehind : (value.digits.drop n).map digitChar ≠ [] := by
    rw [Ne, List.map_eq_nil_iff, List.drop_eq_nil_iff]
    exact Nat.not_le.2 hlt
  have hread : readFraction ('.' :: ((value.digits.drop n).map digitChar ++ after)) =
      some ((value.digits.drop n).map digitChar, after) :=
    readDigits_append hbehind isDigit_of_mem_map hdigit
  refine ⟨_, _, _, _, exponent, 0, 0, readInteger_append hbefore ?_ ?_, hread, hexponent, ?_, ?_⟩
  · rw [head?_take hpos]
    exact value.first
  · intro c hc
    rw [← Option.some.inj hc]
    rfl
  · rw [← List.map_append, List.take_append_drop, map_digitOf, List.replicate_zero, List.append_nil]
    rfl
  · rw [List.length_map, List.length_take_of_le (Nat.le_of_lt hlt), hpoint]
    exact (Int.add_zero _).symm

/-- **The digits of a decimal are found in its text**, in each of the five forms. -/
theorem Decimal.found_unsignedText (value : Decimal) {rest : List Char} (h : EndsNumber rest) :
    value.Found (value.unsignedText ++ rest) rest := by
  have hdigit : ∀ c ∈ rest.head?, c.isDigit = false := fun c hc => (h c hc).1
  have hpoint : '.' ∉ rest.head? := fun hc => (h _ hc).2.1 rfl
  have hexponent : readExponent rest = some (0, rest) :=
    readExponent_none (fun hc => (h _ hc).2.2.1 rfl) fun hc => (h _ hc).2.2.2 rfl
  have hlength : 0 < value.digits.length := List.length_pos_iff.2 value.nonempty
  have hscientific := readExponent_append (value.point - 1) hdigit
  unfold Decimal.unsignedText
  dsimp only
  split
  · -- an integer
    next hwhole =>
    obtain ⟨n, hn⟩ : ∃ n : Nat, (value.point - value.digits.length).toNat = n := ⟨_, rfl⟩
    have htext : value.digits.map digitChar ++ List.replicate n '0' =
        (value.digits ++ List.replicate n 0).map digitChar := by
      rw [List.map_append, List.map_replicate]
      rfl
    have hread : readInteger (value.digits.map digitChar ++ List.replicate n '0' ++ rest) =
        some (value.digits.map digitChar ++ List.replicate n '0', rest) := by
      rw [htext]
      refine readInteger_append (List.append_ne_nil_of_left_ne_nil value.nonempty _) ?_ hdigit
      intro d hd
      rw [List.head?_append_of_ne_nil _ value.nonempty] at hd
      exact value.first d hd
    rw [hn]
    refine ⟨_, _, [], _, 0, 0, n, hread, readFraction_none hpoint, hexponent, ?_, ?_⟩
    · rw [List.append_nil, htext, map_digitOf]
      rfl
    · rw [List.length_append, List.length_map, List.length_replicate]
      omega
  · split
    · -- the point is between the digits
      next hwhole hbetween =>
      have hlt : value.point.toNat < value.digits.length := by omega
      have hfound := value.found_point (n := value.point.toNat) (by omega) hlt hdigit hexponent
        (by omega)
      rwa [List.map_take, List.map_drop, ← List.cons_append, ← List.append_assoc] at hfound
    · split
      · -- zeros behind the point
        next hsmall =>
        obtain ⟨n, hn⟩ : ∃ n : Nat, (-value.point).toNat = n := ⟨_, rfl⟩
        have htext : List.replicate n '0' ++ value.digits.map digitChar =
            (List.replicate n 0 ++ value.digits).map digitChar := by
          rw [List.map_append, List.map_replicate]
          rfl
        have hread : readFraction ('.' :: (List.replicate n '0' ++ value.digits.map digitChar ++
            rest)) = some (List.replicate n '0' ++ value.digits.map digitChar, rest) := by
          rw [htext]
          refine readDigits_append ?_ isDigit_of_mem_map hdigit
          rw [Ne, List.map_eq_nil_iff]
          exact List.append_ne_nil_of_right_ne_nil _ value.nonempty
        rw [hn]
        refine ⟨['0'], _, _, _, 0, n + 1, 0, rfl, hread, hexponent, ?_, ?_⟩
        · rw [htext, List.map_append, map_digitOf, List.replicate_zero, List.append_nil,
            List.replicate_succ]
          rfl
        · rw [List.length_singleton]
          omega
      · split
        · -- one digit and an exponent
          next hone =>
          have hread : readInteger (value.digits.map digitChar ++
              (exponentText (value.point - 1) ++ rest)) =
              some (value.digits.map digitChar, exponentText (value.point - 1) ++ rest) := by
            refine readInteger_append value.nonempty value.first ?_
            intro c hc
            rw [← Option.some.inj hc]
            rfl
          have hnone : readFraction (exponentText (value.point - 1) ++ rest) =
              some ([], exponentText (value.point - 1) ++ rest) :=
            readFraction_none fun hc => absurd (Option.some.inj hc) (by decide)
          rw [List.append_assoc]
          refine ⟨_, _, _, _, _, 0, 0, hread, hnone, hscientific, ?_, ?_⟩
          · rw [List.append_nil, map_digitOf, List.replicate_zero, List.append_nil]
            rfl
          · rw [List.length_map, hone]
            omega
        · -- several digits and an exponent
          next hseveral =>
          have hnot : ∀ c ∈ (exponentText (value.point - 1) ++ rest).head?, c.isDigit = false := by
            intro c hc
            rw [← Option.some.inj hc]
            rfl
          have hfound := value.found_point (n := 1) Nat.one_pos (by omega) hnot hscientific
            (by omega)
          rw [List.map_take, List.map_drop] at hfound
          rwa [List.append_assoc, List.cons_append, List.append_assoc]

theorem Decimal.unsignedText_eq_cons (value : Decimal) :
    ∃ c text, value.unsignedText = c :: text ∧ c.isDigit = true := by
  obtain ⟨d, digits, hdigits⟩ := List.exists_cons_of_ne_nil value.nonempty
  unfold Decimal.unsignedText
  dsimp only
  rw [hdigits, List.map_cons]
  split
  · exact ⟨_, _, rfl, isDigit_digitChar d⟩
  · split
    · next hbetween =>
      obtain ⟨n, hn⟩ : ∃ n, value.point.toNat = n + 1 := ⟨value.point.toNat - 1, by omega⟩
      rw [hn, List.take_succ_cons]
      exact ⟨_, _, rfl, isDigit_digitChar d⟩
    · split
      · exact ⟨_, _, rfl, rfl⟩
      · split
        · exact ⟨_, _, rfl, isDigit_digitChar d⟩
        · exact ⟨_, _, rfl, isDigit_digitChar d⟩

/-- **A printed number is read back**, but for the sign of a zero. -/
theorem readNumber_text (x : JsNumber) {rest : List Char} (h : EndsNumber rest) :
    readNumber (x.text ++ rest) = some (x.asRead, rest) := by
  cases x with
  | zero negative =>
    have hpoint : '.' ∉ rest.head? := fun hc => (h _ hc).2.1 rfl
    have hexponent : readExponent rest = some (0, rest) :=
      readExponent_none (fun hc => (h _ hc).2.2.1 rfl) fun hc => (h _ hc).2.2.2 rfl
    have hsign : '-' ∉ ('0' :: rest).head? := fun hc => absurd (Option.some.inj hc) (by decide)
    exact readNumber_parts false hsign rfl (readFraction_none hpoint) hexponent
  | decimal value =>
    obtain ⟨integer, afterInteger, fraction, afterFraction, exponent, zeros, trailing, hinteger,
      hfraction, hexponent, hdigits, hlength⟩ := value.found_unsignedText h
    obtain ⟨c, text, htext, hc⟩ := value.unsignedText_eq_cons
    have hsign : '-' ∉ (value.unsignedText ++ rest).head? := by
      rw [htext]
      intro heq
      rw [Option.some.inj heq] at hc
      cases hc
    have hread := readNumber_parts value.negative hsign hinteger hfraction hexponent
    rw [hdigits, hlength, ofDigits_decimal] at hread
    rw [JsNumber.text, List.append_assoc]
    exact hread

theorem JsNumber.text_eq_cons (x : JsNumber) :
    ∃ c text, x.text = c :: text ∧ (c = '-' ∨ c.isDigit = true) := by
  cases x with
  | zero negative => exact ⟨'0', [], rfl, Or.inr rfl⟩
  | decimal value =>
    obtain ⟨c, text, htext, hc⟩ := value.unsignedText_eq_cons
    cases hsign : value.negative with
    | true => exact ⟨'-', value.unsignedText, by rw [JsNumber.text, hsign]; rfl, Or.inl rfl⟩
    | false =>
      refine ⟨c, text, ?_, Or.inr hc⟩
      rw [JsNumber.text, hsign, htext]
      rfl

end Lib
