import Mathlib.Data.List.Basic

/-!
# Base64

`btoa` and `atob` over bytes. `atob` forgives: white space is skipped and the padding may
be missing; where it throws, the answer is `none`. What `btoa` wrote is read back
(`atob_btoa`), and so are the digits alone under any padding that fills the last group
(`atob_digits`). The URL-safe digits differ in two characters (`btoa_of_base64Url`).
-/

namespace Lib

/-! ### Reading -/

def base64Digit (c : Char) : Option Nat :=
  if 'A' ≤ c ∧ c ≤ 'Z' then some (c.toNat - 'A'.toNat)
  else if 'a' ≤ c ∧ c ≤ 'z' then some (c.toNat - 'a'.toNat + 26)
  else if '0' ≤ c ∧ c ≤ '9' then some (c.toNat - '0'.toNat + 52)
  else if c = '+' then some 62
  else if c = '/' then some 63
  else none

/-- Three bytes for four digits; the last digits may be two or three. -/
def bytesOfDigits : List Nat → List UInt8
  | a :: b :: c :: d :: rest =>
    let n := ((a * 64 + b) * 64 + c) * 64 + d
    .ofNat (n / 65536) :: .ofNat (n / 256) :: .ofNat n :: bytesOfDigits rest
  | [a, b, c] =>
    let n := ((a * 64 + b) * 64 + c) / 4
    [.ofNat (n / 256), .ofNat n]
  | [a, b] => [.ofNat ((a * 64 + b) / 16)]
  | _ => []

/-- `atob`: white space is skipped, the padding may be missing; `none` where it throws. -/
def atob (text : String) : Option (List UInt8) :=
  let chars := text.toList.filter fun c => !([' ', '\t', '\n', '\x0c', '\r'].contains c)
  let chars :=
    if chars.length % 4 = 0 then
      if chars.drop (chars.length - 2) = ['=', '='] then chars.take (chars.length - 2)
      else if chars.getLast? = some '=' then chars.dropLast
      else chars
    else chars
  if chars.length % 4 = 1 then none else (chars.mapM base64Digit).map bytesOfDigits

/-! ### Writing -/

/-- The digit of a value. -/
def base64Char (n : Nat) : Char :=
  if n < 26 then Char.ofNat (n + 'A'.toNat)
  else if n < 52 then Char.ofNat (n - 26 + 'a'.toNat)
  else if n < 62 then Char.ofNat (n - 52 + '0'.toNat)
  else if n = 62 then '+'
  else '/'

/-- Four digits for three bytes; the last bytes may be one or two. -/
def digitsOfBytes : List UInt8 → List Nat
  | a :: b :: c :: rest =>
    let n := a.toNat * 65536 + b.toNat * 256 + c.toNat
    n / 262144 :: n / 4096 % 64 :: n / 64 % 64 :: n % 64 :: digitsOfBytes rest
  | [a, b] =>
    let n := (a.toNat * 256 + b.toNat) * 4
    [n / 4096, n / 64 % 64, n % 64]
  | [a] =>
    let n := a.toNat * 16
    [n / 64, n % 64]
  | [] => []

/-- What fills the last group of four digits. -/
def base64Padding (data : List UInt8) : List Char :=
  List.replicate ((3 - data.length % 3) % 3) '='

/-- `btoa` of bytes. -/
def btoa (data : List UInt8) : String :=
  String.ofList ((digitsOfBytes data).map base64Char ++ base64Padding data)

/-- The digits of the URL-safe alphabet. -/
def base64UrlChar (n : Nat) : Char :=
  if n = 62 then '-' else if n = 63 then '_' else base64Char n

/-- The URL-safe base64 of bytes, without padding. -/
def base64Url (data : List UInt8) : List Char :=
  (digitsOfBytes data).map base64UrlChar

/-! ### The round trip -/

theorem digitsOfBytes_lt (data : List UInt8) : ∀ n ∈ digitsOfBytes data, n < 64 := by
  induction data using digitsOfBytes.induct with
  -- the cases are those of the encoder: three bytes, two, one, none
  | case1 a b c rest ih =>
    have ha := a.toNat_lt
    have hb := b.toNat_lt
    have hc := c.toNat_lt
    intro n hn
    simp only [digitsOfBytes, List.mem_cons] at hn
    rcases hn with rfl | rfl | rfl | rfl | hn
    · omega
    · omega
    · omega
    · omega
    · exact ih n hn
  | case2 a b =>
    have ha := a.toNat_lt
    have hb := b.toNat_lt
    intro n hn
    simp only [digitsOfBytes, List.mem_cons, List.not_mem_nil, or_false] at hn
    rcases hn with rfl | rfl | rfl <;> omega
  | case3 a =>
    have ha := a.toNat_lt
    intro n hn
    simp only [digitsOfBytes, List.mem_cons, List.not_mem_nil, or_false] at hn
    rcases hn with rfl | rfl <;> omega
  | case4 => exact fun n hn => nomatch hn

/-- The digits of bytes are read as these bytes. -/
theorem bytesOfDigits_digitsOfBytes (data : List UInt8) :
    bytesOfDigits (digitsOfBytes data) = data := by
  have hbyte : ∀ {n : Nat} {b : UInt8}, n % 256 = b.toNat → UInt8.ofNat n = b := by
    intro n b h
    apply UInt8.toNat_inj.1
    rw [UInt8.toNat_ofNat']
    exact h
  induction data using digitsOfBytes.induct with
  -- each byte is put together again from the digits that its bits went to
  | case1 a b c rest ih =>
    have ha := a.toNat_lt
    have hb := b.toNat_lt
    have hc := c.toNat_lt
    rw [digitsOfBytes, bytesOfDigits, ih, hbyte (b := a) (by omega), hbyte (b := b) (by omega),
      hbyte (b := c) (by omega)]
  | case2 a b =>
    have ha := a.toNat_lt
    have hb := b.toNat_lt
    rw [digitsOfBytes, bytesOfDigits, hbyte (b := a) (by omega), hbyte (b := b) (by omega)]
  | case3 a =>
    have ha := a.toNat_lt
    rw [digitsOfBytes, bytesOfDigits, hbyte (b := a) (by omega)]
  | case4 => rfl

theorem length_digitsOfBytes (data : List UInt8) :
    ((digitsOfBytes data).length + (3 - data.length % 3) % 3) % 4 = 0 := by
  induction data using digitsOfBytes.induct with
  | case1 a b c rest ih =>
    simp only [digitsOfBytes, List.length_cons]
    omega
  | case2 a b => simp [digitsOfBytes]
  | case3 a => simp [digitsOfBytes]
  | case4 => rfl

theorem base64Digit_base64Char : ∀ n < 64, base64Digit (base64Char n) = some n := by
  decide

theorem base64Char_ne : ∀ n < 64,
    base64Char n ∉ [' ', '\t', '\n', '\x0c', '\r'] ∧ base64Char n ≠ '=' := by
  decide

theorem mapM_base64Digit {digits : List Nat} (hlt : ∀ n ∈ digits, n < 64) :
    (digits.map base64Char).mapM base64Digit = some digits := by
  induction digits with
  | nil => rfl
  | cons n digits ih =>
    rw [List.map_cons, List.mapM_cons, base64Digit_base64Char n (hlt n List.mem_cons_self),
      ih fun m hm => hlt m (List.mem_cons_of_mem _ hm)]
    rfl

/-- **Digits are read under any padding** that fills the last group. -/
theorem atob_digits {digits : List Nat} (hlt : ∀ n ∈ digits, n < 64) {pad : Nat} (hpad : pad ≤ 2)
    (hlength : (digits.length + pad) % 4 = 0) :
    atob (String.ofList (digits.map base64Char ++ List.replicate pad '=')) =
      some (bytesOfDigits digits) := by
  -- no digit is the padding character, so the padding is what is counted
  have hno : '=' ∉ digits.map base64Char := by
    intro hmem
    obtain ⟨n, hn, heq⟩ := List.mem_map.1 hmem
    exact (base64Char_ne n (hlt n hn)).2 heq
  have hcount : (digits.map base64Char ++ List.replicate pad '=').count '=' = pad := by
    rw [List.count_append, List.count_eq_zero_of_not_mem hno, List.count_replicate_self,
      Nat.zero_add]
  -- there is no white space to skip
  have hfilter : (digits.map base64Char ++ List.replicate pad '=').filter
      (fun c => !([' ', '\t', '\n', '\x0c', '\r'].contains c)) =
        digits.map base64Char ++ List.replicate pad '=' := by
    refine List.filter_eq_self.2 fun c hc => ?_
    rcases List.mem_append.1 hc with hc | hc
    · obtain ⟨n, hn, rfl⟩ := List.mem_map.1 hc
      rw [Bool.not_eq_true', List.contains_eq_mem, decide_eq_false_iff_not]
      exact (base64Char_ne n (hlt n hn)).1
    · rw [(List.mem_replicate.1 hc).2]
      decide
  have hall : (digits.map base64Char ++ List.replicate pad '=').length % 4 = 0 := by
    rw [List.length_append, List.length_map, List.length_replicate]
    exact hlength
  -- what is left after the padding is taken off
  have hstrip : (if (digits.map base64Char ++ List.replicate pad '=').drop
        ((digits.map base64Char ++ List.replicate pad '=').length - 2) = ['=', '='] then
        (digits.map base64Char ++ List.replicate pad '=').take
          ((digits.map base64Char ++ List.replicate pad '=').length - 2)
      else if (digits.map base64Char ++ List.replicate pad '=').getLast? = some '=' then
        (digits.map base64Char ++ List.replicate pad '=').dropLast
      else digits.map base64Char ++ List.replicate pad '=') = digits.map base64Char := by
    -- the three amounts of padding: two characters, one, or none
    by_cases htwo : pad = 2
    · subst htwo
      have hsize : (digits.map base64Char ++ List.replicate 2 '=').length - 2 =
          (digits.map base64Char).length := by
        rw [List.length_append, List.length_replicate, Nat.add_sub_cancel]
      rw [hsize, List.drop_left, List.take_left]
      rfl
    · have hnot : (digits.map base64Char ++ List.replicate pad '=').drop
          ((digits.map base64Char ++ List.replicate pad '=').length - 2) ≠ ['=', '='] := by
        intro heq
        have hle := (List.drop_sublist
          ((digits.map base64Char ++ List.replicate pad '=').length - 2)
          (digits.map base64Char ++ List.replicate pad '=')).count_le '='
        rw [heq, hcount] at hle
        have : (['=', '='] : List Char).count '=' = 2 := rfl
        omega
      rw [if_neg hnot]
      rcases Nat.lt_or_ge 0 pad with hone | hzero
      · obtain rfl : pad = 1 := by omega
        have hlast : (digits.map base64Char ++ List.replicate 1 '=').getLast? = some '=' :=
          List.getLast?_concat
        rw [if_pos hlast]
        exact List.dropLast_concat
      · obtain rfl : pad = 0 := by omega
        rw [List.replicate_zero, List.append_nil, if_neg]
        exact fun hlast => hno (List.mem_of_getLast? hlast)
  unfold atob
  rw [String.toList_ofList, hfilter]
  dsimp only
  rw [if_pos hall, hstrip, List.length_map, if_neg (by omega), mapM_base64Digit hlt]
  rfl

theorem btoa_of_base64Url (data : List UInt8) :
    String.ofList ((base64Url data).map
        (fun c => if c = '-' then '+' else if c = '_' then '/' else c) ++
      List.replicate ((4 - (base64Url data).length % 4) % 4) '=') = btoa data := by
  have hchar : ∀ n < 64, (if base64UrlChar n = '-' then '+'
      else if base64UrlChar n = '_' then '/' else base64UrlChar n) = base64Char n := by
    decide
  have hchars : (base64Url data).map
      (fun c => if c = '-' then '+' else if c = '_' then '/' else c) =
        (digitsOfBytes data).map base64Char := by
    rw [base64Url, List.map_map]
    exact List.map_congr_left fun n hn => hchar n (digitsOfBytes_lt data n hn)
  -- the padding that is put back is the one that the encoder would have written
  have hpad : (4 - (base64Url data).length % 4) % 4 = (3 - data.length % 3) % 3 := by
    have hlength := length_digitsOfBytes data
    rw [base64Url, List.length_map]
    omega
  rw [hchars, hpad, btoa, base64Padding]

/-- **What was written is read back.** -/
theorem atob_btoa (data : List UInt8) : atob (btoa data) = some data := by
  unfold btoa base64Padding
  rw [atob_digits (digitsOfBytes_lt data) (by omega) (length_digitsOfBytes data),
    bytesOfDigits_digitsOfBytes]

end Lib
