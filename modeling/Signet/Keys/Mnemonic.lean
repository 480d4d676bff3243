import Mathlib.Tactic.Ring
import Signet.Core.ConvosInvite
import Signet.Keys.Bip39Wordlist
import Signet.Lib.Bits

/-!
# Mnemonics

`generateMnemonic` and `extractBits` of `derivation.ts`. The random entropy and SHA-256 are inputs.
`extractBits` assembles its value bit by bit in a 32-bit integer, as the operators `|=` and `<<` of
JavaScript do; up to a width of 16 this is the number the bits spell (`extractBits_eq`), wherever
they lie. The 24 indexes of a mnemonic are then the bits of its entropy and its checksum, eleven at
a time, and since no word stands twice in the list and none has a space, the text gives them back
(`packed_and_distinct`).
-/

namespace Signet

open Lib

/-- The bit operators of JavaScript on the variable `value`, for one bit of weight `weight`. -/
def setBit (value : BitVec 32) (weight : Nat) : BitVec 32 :=
  value ||| (1#32 <<< (weight % 32))

/-- The loop of `extractBits` over the last `remaining` bits. -/
def extractBitsFrom (data : Bytes) (bitOffset numBits : Nat) :
    Nat → BitVec 32 → Except String Int
  | 0, value => .ok value.toInt
  | remaining + 1, value =>
    let i := numBits - (remaining + 1)
    let byteIndex := (bitOffset + i) / 8
    let bitIndex := 7 - (bitOffset + i) % 8
    match data[byteIndex]? with
    | none => .error ("Bit extraction out of bounds at byte " ++ toString byteIndex)
    | some byte =>
      if (byte.toNat >>> bitIndex) &&& 1 ≠ 0 then
        extractBitsFrom data bitOffset numBits remaining (setBit value (numBits - 1 - i))
      else extractBitsFrom data bitOffset numBits remaining value

def extractBits (data : Bytes) (bitOffset numBits : Nat) : Except String Int :=
  extractBitsFrom data bitOffset numBits numBits 0#32

/-- The random bytes of `generateMnemonic`. -/
structure Entropy where
  bytes : Bytes
  length_eq : bytes.length = 32

/-- `BIP39_ENGLISH_WORDLIST[index]`. -/
def wordAt (index : Int) : Option String :=
  if index < 0 then none else bip39EnglishWordlist[index.toNat]?

/-- The loop of `generateMnemonic` over the positions `positions`. -/
def mnemonicWords (allBytes : Bytes) : List Nat → Except String (List String)
  | [] => .ok []
  | i :: positions => do
    let index ← extractBits allBytes (i * 11) 11
    match wordAt index with
    | none => .error ("Invalid wordlist index: " ++ toString index)
    | some word =>
      let words ← mnemonicWords allBytes positions
      .ok (word :: words)

/-- The entropy and the first byte of its hash. -/
def checksummed (sha256 : Bytes → Bytes) (entropy : Entropy) : Bytes :=
  entropy.bytes ++ [(sha256 entropy.bytes)[0]?.getD 0]

def generateMnemonic (sha256 : Bytes → Bytes) (entropy : Entropy) : Except String String := do
  let words ← mnemonicWords (checksummed sha256 entropy) (List.range 24)
  .ok (" ".intercalate words)

/-! ### Extracting bits -/

/-- The bits that `extractBits` is asked for. -/
def bitsAt (data : Bytes) (bitOffset numBits : Nat) : List Bool :=
  ((bitsOf data).drop bitOffset).take numBits

theorem length_bitsAt {data : Bytes} {bitOffset numBits : Nat}
    (h : bitOffset + numBits ≤ 8 * data.length) :
    (bitsAt data bitOffset numBits).length = numBits := by
  unfold bitsAt
  rw [List.length_take, List.length_drop, length_bitsOf]
  omega

theorem bitsAt_getElem? {data : Bytes} {bitOffset numBits i : Nat} (hi : i < numBits) :
    (bitsAt data bitOffset numBits)[i]? =
      data[(bitOffset + i) / 8]?.map fun byte =>
        byte.toNat.testBit (7 - (bitOffset + i) % 8) := by
  unfold bitsAt
  rw [List.getElem?_take_of_lt hi, List.getElem?_drop, bitsOf_getElem?]

/-- The test of a bit by shifting. -/
theorem shiftRight_and_one_ne_zero (n k : Nat) : (n >>> k) &&& 1 ≠ 0 ↔ n.testBit k = true := by
  rw [Nat.testBit, Nat.and_comm, bne_iff_ne]

/-- Setting a bit below those that are set adds its weight. -/
theorem toNat_setBit {value : BitVec 32} {n remaining : Nat} (hr : remaining < 32)
    (h : value.toNat = n * 2 ^ (remaining + 1)) :
    (setBit value remaining).toNat = (2 * n + 1) * 2 ^ remaining := by
  -- the shift is below 32, so no bit is lost
  have hone : (1#32 <<< (remaining % 32)).toNat = 2 ^ remaining := by
    rw [Nat.mod_eq_of_lt hr, BitVec.toNat_shiftLeft]
    show 1 <<< remaining % 2 ^ 32 = 2 ^ remaining
    rw [Nat.shiftLeft_eq, Nat.one_mul, Nat.mod_eq_of_lt (Nat.pow_lt_pow_right (by decide) hr)]
  have hlt : 2 ^ remaining < 2 ^ (remaining + 1) := Nat.pow_lt_pow_right (by decide) (by omega)
  unfold setBit
  rw [BitVec.toNat_or, hone, h, Nat.mul_comm n, ← Nat.two_pow_add_eq_or_of_lt hlt, pow_succ]
  ring

/-- **What the loop returns**, from a value that holds the bits before `remaining`. -/
theorem extractBitsFrom_eq {data : Bytes} {bitOffset numBits : Nat} (hwidth : numBits ≤ 16)
    (h : bitOffset + numBits ≤ 8 * data.length) (remaining : Nat) (hle : remaining ≤ numBits)
    (value : BitVec 32)
    (hvalue : value.toNat =
      bitsToNat ((bitsAt data bitOffset numBits).take (numBits - remaining)) * 2 ^ remaining) :
    extractBitsFrom data bitOffset numBits remaining value =
      .ok (bitsToNat (bitsAt data bitOffset numBits) : Nat) := by
  have hlength := length_bitsAt h
  -- on the bits still to be read: `value` holds the ones before, shifted to their place
  induction remaining generalizing value with
  | zero =>
    rw [Nat.sub_zero, List.take_of_length_le (Nat.le_of_eq hlength), pow_zero,
      Nat.mul_one] at hvalue
    have hlt : bitsToNat (bitsAt data bitOffset numBits) < 2 ^ 16 := by
      calc bitsToNat (bitsAt data bitOffset numBits)
          < 2 ^ (bitsAt data bitOffset numBits).length := bitsToNat_lt _
        _ ≤ 2 ^ 16 := by
          rw [hlength]
          exact Nat.pow_le_pow_right (by decide) hwidth
    -- 16 bits are below the sign bit, so `value` is read as it is
    have hint : value.toInt = (value.toNat : Int) := BitVec.toInt_eq_toNat_of_lt (by omega)
    rw [extractBitsFrom, hint, hvalue]
  | succ remaining ih =>
    have hi : numBits - (remaining + 1) < numBits := by omega
    generalize hpos : numBits - (remaining + 1) = i at hi hvalue
    have hbyte : (bitOffset + i) / 8 < data.length := by omega
    have hbit : (bitsAt data bitOffset numBits)[i]? =
        some ((data[(bitOffset + i) / 8]).toNat.testBit (7 - (bitOffset + i) % 8)) := by
      rw [bitsAt_getElem? hi, List.getElem?_eq_getElem hbyte, Option.map_some]
    -- one more bit is taken from the front
    have htake : (bitsAt data bitOffset numBits).take (numBits - remaining) =
        (bitsAt data bitOffset numBits).take i ++
          [(data[(bitOffset + i) / 8]).toNat.testBit (7 - (bitOffset + i) % 8)] := by
      have hnext : numBits - remaining = i + 1 := by omega
      rw [hnext, List.take_add_one, hbit]
      rfl
    have hweight : numBits - 1 - i = remaining := by omega
    rw [extractBitsFrom, hpos, List.getElem?_eq_getElem hbyte]
    dsimp only
    by_cases hset : (data[(bitOffset + i) / 8]).toNat.testBit (7 - (bitOffset + i) % 8) = true
    · rw [if_pos ((shiftRight_and_one_ne_zero _ _).2 hset), hweight]
      refine ih (by omega) _ ?_
      rw [htake, bitsToNat_append_singleton, hset]
      exact toNat_setBit (by omega) hvalue
    · rw [if_neg fun hone => hset ((shiftRight_and_one_ne_zero _ _).1 hone)]
      refine ih (by omega) _ ?_
      rw [htake, bitsToNat_append_singleton, Bool.eq_false_iff.2 hset, hvalue, pow_succ]
      show _ = (2 * bitsToNat _ + 0) * 2 ^ remaining
      ring

/-- **The bits that are asked for, as a number.** -/
theorem extractBits_eq {data : Bytes} {bitOffset numBits : Nat} (hwidth : numBits ≤ 16)
    (h : bitOffset + numBits ≤ 8 * data.length) :
    extractBits data bitOffset numBits =
      .ok (bitsToNat (bitsAt data bitOffset numBits) : Nat) := by
  refine extractBitsFrom_eq hwidth h numBits (Nat.le_refl _) 0#32 ?_
  rw [Nat.sub_self, List.take_zero]
  show 0 = 0 * 2 ^ numBits
  rw [Nat.zero_mul]

/-! ### The words of a mnemonic -/

/-- The index of the word at a position. -/
def wordIndex (allBytes : Bytes) (i : Nat) : Nat :=
  bitsToNat (bitsAt allBytes (i * 11) 11)

def wordOf (index : Nat) : String :=
  bip39EnglishWordlist[index]?.getD ""

variable {allBytes : Bytes}

theorem extractBits_word (hlength : allBytes.length = 33) {i : Nat} (hi : i < 24) :
    extractBits allBytes (i * 11) 11 = .ok (wordIndex allBytes i : Nat) :=
  extractBits_eq (by decide) (by omega)

theorem wordIndex_lt (hlength : allBytes.length = 33) {i : Nat} (hi : i < 24) :
    wordIndex allBytes i < 2048 := by
  have hbits : (bitsAt allBytes (i * 11) 11).length = 11 := length_bitsAt (by omega)
  calc wordIndex allBytes i
      < 2 ^ (bitsAt allBytes (i * 11) 11).length := bitsToNat_lt _
    _ = 2048 := by rw [hbits]; rfl

/-- The eleven bits of an index are those it was taken from. -/
theorem natToBits_wordIndex (hlength : allBytes.length = 33) {i : Nat} (hi : i < 24) :
    natToBits 11 (wordIndex allBytes i) = bitsAt allBytes (i * 11) 11 := by
  have hbits : (bitsAt allBytes (i * 11) 11).length = 11 := length_bitsAt (by omega)
  have hback := natToBits_bitsToNat (bitsAt allBytes (i * 11) 11)
  rwa [hbits] at hback

/-- **The indexes hold all bits**: one after another, they are the bits of the bytes. -/
theorem flatMap_wordIndex (hlength : allBytes.length = 33) :
    ((List.range 24).map (wordIndex allBytes)).flatMap (natToBits 11) = bitsOf allBytes := by
  rw [List.flatMap_map]
  calc (List.range 24).flatMap (fun i => natToBits 11 (wordIndex allBytes i))
      = (List.range 24).flatMap (fun i => ((bitsOf allBytes).drop (i * 11)).take 11) :=
        List.flatMap_congr fun i hi => natToBits_wordIndex hlength (List.mem_range.1 hi)
    _ = (bitsOf allBytes).take (24 * 11) := flatMap_range_pieces _ _ _
    _ = bitsOf allBytes := by
        refine List.take_of_length_le ?_
        rw [length_bitsOf, hlength]

theorem wordAt_eq {index : Nat} (h : index < 2048) : wordAt index = some (wordOf index) := by
  have hlt : index < bip39EnglishWordlist.length := by
    rw [length_bip39EnglishWordlist]
    exact h
  unfold wordAt wordOf
  rw [if_neg (by omega), Int.toNat_natCast, List.getElem?_eq_getElem hlt]
  rfl

theorem wordOf_mem {index : Nat} (h : index < 2048) : wordOf index ∈ bip39EnglishWordlist := by
  have hlt : index < bip39EnglishWordlist.length := by
    rw [length_bip39EnglishWordlist]
    exact h
  unfold wordOf
  rw [List.getElem?_eq_getElem hlt]
  exact List.getElem_mem hlt

theorem wordOf_inj {index index' : Nat} (h : index < 2048) (h' : index' < 2048)
    (heq : wordOf index = wordOf index') : index = index' := by
  rw [← length_bip39EnglishWordlist] at h h'
  unfold wordOf at heq
  rw [List.getElem?_eq_getElem h, List.getElem?_eq_getElem h'] at heq
  exact (nodup_bip39EnglishWordlist.getElem_inj_iff).1 heq

theorem map_wordOf_inj {indexes indexes' : List Nat} (h : ∀ index ∈ indexes, index < 2048)
    (h' : ∀ index ∈ indexes', index < 2048) (heq : indexes.map wordOf = indexes'.map wordOf) :
    indexes = indexes' := by
  induction indexes generalizing indexes' with
  | nil => exact (List.map_eq_nil_iff.1 heq.symm).symm
  | cons index indexes ih =>
    cases indexes' with
    | nil => cases heq
    | cons index' indexes' =>
      obtain ⟨hword, hwords⟩ := List.cons.inj heq
      rw [wordOf_inj (h index List.mem_cons_self) (h' index' List.mem_cons_self) hword,
        ih (fun i hi => h i (List.mem_cons_of_mem _ hi))
          (fun i hi => h' i (List.mem_cons_of_mem _ hi)) hwords]

theorem mnemonicWords_eq (hlength : allBytes.length = 33) {positions : List Nat}
    (h : ∀ i ∈ positions, i < 24) :
    mnemonicWords allBytes positions =
      .ok ((positions.map (wordIndex allBytes)).map wordOf) := by
  induction positions with
  | nil => rfl
  | cons i positions ih =>
    have hi : i < 24 := h i List.mem_cons_self
    have hrest := ih fun j hj => h j (List.mem_cons_of_mem _ hj)
    rw [mnemonicWords, extractBits_word hlength hi, ok_bind, wordAt_eq (wordIndex_lt hlength hi)]
    dsimp only
    rw [hrest]
    rfl

theorem length_checksummed (sha256 : Bytes → Bytes) (entropy : Entropy) :
    (checksummed sha256 entropy).length = 33 := by
  unfold checksummed
  rw [List.length_append, entropy.length_eq]
  rfl

def wordIndexes (sha256 : Bytes → Bytes) (entropy : Entropy) : List Nat :=
  (List.range 24).map (wordIndex (checksummed sha256 entropy))

theorem wordIndexes_lt (sha256 : Bytes → Bytes) (entropy : Entropy) {index : Nat}
    (h : index ∈ wordIndexes sha256 entropy) : index < 2048 := by
  obtain ⟨i, hi, rfl⟩ := List.mem_map.1 h
  exact wordIndex_lt (length_checksummed sha256 entropy) (List.mem_range.1 hi)

/-- A mnemonic is always generated, of the words with these indexes. -/
theorem generateMnemonic_eq (sha256 : Bytes → Bytes) (entropy : Entropy) :
    generateMnemonic sha256 entropy =
      .ok (" ".intercalate ((wordIndexes sha256 entropy).map wordOf)) := by
  unfold generateMnemonic
  rw [mnemonicWords_eq (length_checksummed sha256 entropy) fun i hi => List.mem_range.1 hi, ok_bind]
  rfl

theorem intercalate_words_inj {words words' : List String} (hne : words ≠ []) (hne' : words' ≠ [])
    (h : ∀ word ∈ words, word ∈ bip39EnglishWordlist)
    (h' : ∀ word ∈ words', word ∈ bip39EnglishWordlist)
    (heq : " ".intercalate words = " ".intercalate words') : words = words' := by
  -- no word has a space, so splitting the text gives the words back
  have hsplit : ∀ {ws : List String}, ws ≠ [] → (∀ word ∈ ws, word ∈ bip39EnglishWordlist) →
      (" ".intercalate ws).toList.splitOn ' ' = ws.map String.toList := by
    intro ws hws hmem
    rw [String.toList_intercalate]
    refine List.splitOn_intercalate ' ' (fun l hl => ?_) fun hnil =>
      hws (List.map_eq_nil_iff.1 hnil)
    obtain ⟨word, hword, rfl⟩ := List.mem_map.1 hl
    exact space_not_mem_word (hmem word hword)
  have hlists : words.map String.toList = words'.map String.toList := by
    rw [← hsplit hne h, ← hsplit hne' h', heq]
  exact List.map_injective_iff.2 (fun _ _ => String.toList_inj.1) hlists

/-- **Distinct entropies have distinct mnemonics.** -/
theorem generateMnemonic_inj (sha256 : Bytes → Bytes) {entropy entropy' : Entropy}
    (h : generateMnemonic sha256 entropy = generateMnemonic sha256 entropy') :
    entropy = entropy' := by
  rw [generateMnemonic_eq, generateMnemonic_eq] at h
  have hmem : ∀ (e : Entropy), ∀ word ∈ (wordIndexes sha256 e).map wordOf,
      word ∈ bip39EnglishWordlist := by
    intro e word hword
    obtain ⟨index, hindex, rfl⟩ := List.mem_map.1 hword
    exact wordOf_mem (wordIndexes_lt sha256 e hindex)
  have hwords := intercalate_words_inj (by simp [wordIndexes]) (by simp [wordIndexes])
    (hmem entropy) (hmem entropy') (Except.ok.inj h)
  -- the words give back the indexes, these the bits, and these the bytes
  have hindexes : wordIndexes sha256 entropy = wordIndexes sha256 entropy' :=
    map_wordOf_inj (fun _ hi => wordIndexes_lt sha256 entropy hi)
      (fun _ hi => wordIndexes_lt sha256 entropy' hi) hwords
  have hbits : bitsOf (checksummed sha256 entropy) = bitsOf (checksummed sha256 entropy') := by
    rw [← flatMap_wordIndex (length_checksummed sha256 entropy),
      ← flatMap_wordIndex (length_checksummed sha256 entropy')]
    exact congrArg (List.flatMap (natToBits 11)) hindexes
  have hbytes := bitsOf_injective hbits
  have hentropy : entropy.bytes = entropy'.bytes :=
    (List.append_inj hbytes (by rw [entropy.length_eq, entropy'.length_eq])).1
  cases entropy
  cases entropy'
  cases hentropy
  rfl

/-- **The bits of a mnemonic are packed exactly**: `extractBits` returns the number of the bits it
is asked for, the indexes of the words are the bits of the entropy and the checksum, eleven at a
time, and different entropies have different mnemonics. -/
theorem packed_and_distinct :
    (∀ {data : Bytes} {bitOffset numBits : Nat}, numBits ≤ 16 →
      bitOffset + numBits ≤ 8 * data.length →
        extractBits data bitOffset numBits =
            .ok (bitsToNat (((bitsOf data).drop bitOffset).take numBits) : Nat) ∧
          bitsToNat (((bitsOf data).drop bitOffset).take numBits) < 2 ^ numBits) ∧
    (∀ (sha256 : Bytes → Bytes) (entropy : Entropy), ∃ indexes : List Nat,
      (List.range 24).map (fun i => extractBits (checksummed sha256 entropy) (i * 11) 11) =
          indexes.map (fun index => .ok (index : Int)) ∧
        (∀ index ∈ indexes, index < 2048) ∧
        indexes.flatMap (natToBits 11) =
          bitsOf entropy.bytes ++ bitsOf [(sha256 entropy.bytes)[0]?.getD 0] ∧
        generateMnemonic sha256 entropy = .ok (" ".intercalate (indexes.map wordOf))) ∧
    ∀ (sha256 : Bytes → Bytes) (entropy entropy' : Entropy), entropy ≠ entropy' →
      generateMnemonic sha256 entropy ≠ generateMnemonic sha256 entropy' := by
  refine ⟨?_, ?_, ?_⟩
  · intro data bitOffset numBits hwidth h
    refine ⟨extractBits_eq hwidth h, ?_⟩
    have hlt := bitsToNat_lt (bitsAt data bitOffset numBits)
    rwa [length_bitsAt h] at hlt
  · intro sha256 entropy
    have hlength := length_checksummed sha256 entropy
    refine ⟨wordIndexes sha256 entropy, ?_, fun _ hi => wordIndexes_lt sha256 entropy hi, ?_,
      generateMnemonic_eq sha256 entropy⟩
    · unfold wordIndexes
      rw [List.map_map]
      exact List.map_congr_left fun i hi => extractBits_word hlength (List.mem_range.1 hi)
    · rw [← bitsOf_append]
      exact flatMap_wordIndex hlength
  · intro sha256 entropy entropy' hne heq
    exact hne (generateMnemonic_inj sha256 heq)

/-- Eight bits across two bytes. -/
theorem packed_and_distinct_straddling : extractBits [0xab, 0xcd] 4 8 = .ok 0xbc :=
  (packed_and_distinct.1 (by decide) (by decide)).1.trans (by decide)

end Signet
