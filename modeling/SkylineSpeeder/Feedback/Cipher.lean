import Mathlib.Data.List.GetD
import SkylineSpeeder.Machine.Text

/-!
The cipher that seals the DSN, in both senders: `chacha20` of ssctl, on words of 32 bits, and
`feedback_chacha` of install.sh, on the shell's numbers of 64 bits and texts of hexadecimal
digits.

* `quarterRound`, `chacha20`: the first;
* `feedbackQr`, `feedbackChacha`: the second;
* `wide`, `wide_add`, `wide_rotate`: a word as the shell has it, and what its masked sums and
  rotations are;
* `feedbackQr_wide`, `feedbackBlock_eq`: so a quarter round, and a block, are the same;
* `chacha20_eq_mapIdx`: the cipher as one exclusive or for each byte;
* `ciphers_are_one`: the two compute the same, and each of them undoes itself.
-/

namespace SkylineSpeeder.Feedback

/-! ### ssctl -/

/-- `u32`. -/
abbrev Word := BitVec 32

/-- `u8`. -/
abbrev Byte := BitVec 8

/-- `quarter_round`. -/
def quarterRound (x : Vector Word 16) (a b c d : Fin 16) : Vector Word 16 :=
  let x := x.set a (x[a] + x[b])
  let x := x.set d ((x[d] ^^^ x[a]).rotateLeft 16)
  let x := x.set c (x[c] + x[d])
  let x := x.set b ((x[b] ^^^ x[c]).rotateLeft 12)
  let x := x.set a (x[a] + x[b])
  let x := x.set d ((x[d] ^^^ x[a]).rotateLeft 8)
  let x := x.set c (x[c] + x[d])
  x.set b ((x[b] ^^^ x[c]).rotateLeft 7)

/-- One of the ten turns of the inner loop of `chacha20`. -/
def doubleRound (x : Vector Word 16) : Vector Word 16 :=
  let x := quarterRound x 0 4 8 12
  let x := quarterRound x 1 5 9 13
  let x := quarterRound x 2 6 10 14
  let x := quarterRound x 3 7 11 15
  let x := quarterRound x 0 5 10 15
  let x := quarterRound x 1 6 11 12
  let x := quarterRound x 2 7 8 13
  quarterRound x 3 4 9 14

/-- `u32::from_le_bytes`, of the first four bytes. -/
def word (bytes : List Byte) : Word :=
  bytes.getD 3 0 ++ bytes.getD 2 0 ++ bytes.getD 1 0 ++ bytes.getD 0 0

/-- `u32::to_le_bytes`. -/
def leBytes (w : Word) : List Byte :=
  [w.extractLsb' 0 8, w.extractLsb' 8 8, w.extractLsb' 16 8, w.extractLsb' 24 8]

/-- The state before the counter is set. -/
def initState (key : Vector Byte 32) (nonce : Vector Byte 12) : Vector Word 16 :=
  let k i := word (key.toList.drop (i * 4))
  let n i := word (nonce.toList.drop (i * 4))
  #v[0x61707865, 0x3320646e, 0x79622d32, 0x6b206574,
    k 0, k 1, k 2, k 3, k 4, k 5, k 6, k 7, 0, n 0, n 1, n 2]

/-- The stream of a block. -/
def blockStream (state : Vector Word 16) (block : ℕ) : List Byte :=
  let state := state.set 12 (BitVec.ofNat 32 block + 1)
  let x := doubleRound^[10] state
  (List.finRange 16).flatMap fun i => leBytes (x[i] + state[i])

/-- `slice::chunks`. -/
def chunks (size : ℕ) (data : List Byte) : List (List Byte) :=
  (List.range ((data.length + (size - 1)) / size)).map fun i => (data.drop (size * i)).take size

/-- `chacha20`. -/
def chacha20 (key : Vector Byte 32) (nonce : Vector Byte 12) (data : List Byte) : List Byte :=
  (chunks 64 data).zipIdx.flatMap fun chunk =>
    List.zipWith (· ^^^ ·) chunk.1 (blockStream (initState key nonce) chunk.2)

/-! ### install.sh -/

/-- A number of the shell. -/
abbrev Num := BitVec 64

/-- `feedback_qr`; the second of the shell's shifts keeps the sign. -/
def feedbackQr (x : Vector Num 16) (a b c d : Fin 16) : Vector Num 16 :=
  let x := x.set a ((x[a] + x[b]) &&& 0xffffffff)
  let t := x[d] ^^^ x[a]
  let x := x.set d (((t <<< 16) ||| t.sshiftRight 16) &&& 0xffffffff)
  let x := x.set c ((x[c] + x[d]) &&& 0xffffffff)
  let t := x[b] ^^^ x[c]
  let x := x.set b (((t <<< 12) ||| t.sshiftRight 20) &&& 0xffffffff)
  let x := x.set a ((x[a] + x[b]) &&& 0xffffffff)
  let t := x[d] ^^^ x[a]
  let x := x.set d (((t <<< 8) ||| t.sshiftRight 24) &&& 0xffffffff)
  let x := x.set c ((x[c] + x[d]) &&& 0xffffffff)
  let t := x[b] ^^^ x[c]
  x.set b (((t <<< 7) ||| t.sshiftRight 25) &&& 0xffffffff)

/-- One of the ten turns of the inner loop of `feedback_chacha`. -/
def feedbackDoubleRound (x : Vector Num 16) : Vector Num 16 :=
  let x := feedbackQr x 0 4 8 12
  let x := feedbackQr x 1 5 9 13
  let x := feedbackQr x 2 6 10 14
  let x := feedbackQr x 3 7 11 15
  let x := feedbackQr x 0 5 10 15
  let x := feedbackQr x 1 6 11 12
  let x := feedbackQr x 2 7 8 13
  feedbackQr x 3 4 9 14

/-- `${text:pos:length}`. -/
def substring (text : List Char) (pos length : ℕ) : List Char := (text.drop pos).take length

/-- `16#digits`; `none` is an error of the shell. -/
def sixteen (digits : List Char) : Option Num :=
  if digits = [] then none
  else digits.foldlM (fun n c => (Text.hexDigit c).map fun d => n * 16 + BitVec.ofNat 64 d) 0

/-- `printf '%02x'`. -/
def printf02x (n : Num) : List Char :=
  List.replicate (2 - (Text.hexText n.toNat).length) '0' ++ Text.hexText n.toNat

/-- A word of the key or of the nonce. -/
def feedbackWord (text : List Char) (i : ℕ) : Option Num :=
  sixteen (substring text (i * 8 + 6) 2 ++ substring text (i * 8 + 4) 2 ++
    substring text (i * 8 + 2) 2 ++ substring text (i * 8) 2)

/-- `init`, before the counter is set. -/
def feedbackInit (key nonce : List Char) : Option (Vector Num 16) := do
  let k0 ← feedbackWord key 0
  let k1 ← feedbackWord key 1
  let k2 ← feedbackWord key 2
  let k3 ← feedbackWord key 3
  let k4 ← feedbackWord key 4
  let k5 ← feedbackWord key 5
  let k6 ← feedbackWord key 6
  let k7 ← feedbackWord key 7
  let n0 ← feedbackWord nonce 0
  let n1 ← feedbackWord nonce 1
  let n2 ← feedbackWord nonce 2
  some #v[1634760805, 857760878, 2036477234, 1797285236,
    k0, k1, k2, k3, k4, k5, k6, k7, 0, n0, n1, n2]

/-- `stream`. -/
def feedbackStream (init : Vector Num 16) (n : ℕ) : List Char :=
  let init := init.set 12 (BitVec.ofNat 64 (n / 64 + 1))
  let x := feedbackDoubleRound^[10] init
  (List.finRange 16).flatMap fun i =>
    let t := (x[i] + init[i]) &&& 0xffffffff
    printf02x (t &&& 255) ++ printf02x (t.sshiftRight 8 &&& 255) ++
      printf02x (t.sshiftRight 16 &&& 255) ++ printf02x (t.sshiftRight 24 &&& 255)

/-- What one turn of the outer loop, from byte `n` on, adds to `out`. -/
def feedbackBlock (init : Vector Num 16) (data : List Char) (n : ℕ) : Option (List Char) := do
  let stream := feedbackStream init n
  let out ← (List.range (min 64 (data.length / 2 - n))).mapM fun i => do
    let byte ← sixteen (substring data ((n + i) * 2) 2)
    let key ← sixteen (substring stream (i * 2) 2)
    some (printf02x (byte ^^^ key))
  some out.flatten

/-- `feedback_chacha`. -/
def feedbackChacha (key nonce data : List Char) : Option (List Char) := do
  let init ← feedbackInit key nonce
  let out ← (List.range ((data.length / 2 + 63) / 64)).mapM fun b =>
    feedbackBlock init data (b * 64)
  some out.flatten

/-! ### Words -/

/-- A word, as a number of the shell. -/
def wide (w : Word) : Num := w.setWidth 64

/-- A masked number is a word. -/
lemma and_mask (n : Num) : n &&& 0xffffffff = wide (n.setWidth 32) := by
  apply BitVec.eq_of_toNat_eq
  have h : (0xffffffff : BitVec 64).toNat = 2 ^ 32 - 1 := rfl
  rw [BitVec.toNat_and, h, Nat.and_two_pow_sub_one_eq_mod, wide, BitVec.toNat_setWidth,
    BitVec.toNat_setWidth]
  omega

lemma setWidth_wide (w : Word) : (wide w).setWidth 32 = w := by
  rw [wide, BitVec.setWidth_setWidth_of_le _ (by decide), BitVec.setWidth_eq]

/-- A masked sum wraps as words do. -/
lemma wide_add (a b : Word) : (wide a + wide b) &&& 0xffffffff = wide (a + b) := by
  rw [and_mask, BitVec.setWidth_add _ _ (by decide), setWidth_wide, setWidth_wide]

lemma wide_xor (a b : Word) : wide a ^^^ wide b = wide (a ^^^ b) := by
  rw [wide, wide, wide, BitVec.setWidth_xor]

/-- No word has the sign, so the shell's shift to the right brings none in. -/
lemma wide_sshiftRight (w : Word) (k : ℕ) : (wide w).sshiftRight k = wide w >>> k := by
  refine BitVec.sshiftRight_eq_of_msb_false ?_
  rw [wide, BitVec.msb_setWidth]
  simp

/-- A masked rotation rotates as words do. -/
lemma wide_rotate (w : Word) {k : ℕ} (hpos : 0 < k) (h : k < 32) :
    ((wide w <<< k) ||| (wide w).sshiftRight (32 - k)) &&& 0xffffffff = wide (w.rotateLeft k) := by
  have hlow : ((wide w <<< k) ||| (wide w).sshiftRight (32 - k)).setWidth 32 = w.rotateLeft k := by
    rw [wide_sshiftRight, wide]
    apply BitVec.eq_of_getLsbD_eq
    intro i hi
    rw [BitVec.getLsbD_rotateLeft, Nat.mod_eq_of_lt h]
    by_cases hik : i < k
    · simp [hi, hik, (by omega : i < 64), (by omega : 32 - k + i < 64)]
    · have hout : w.getLsbD (32 - k + i) = false := BitVec.getLsbD_of_ge _ _ (by omega)
      simp [hi, hik, hout, (by omega : i < 64), BitVec.getLsbD_eq_getElem (by omega : i - k < 32)]
  rw [and_mask, hlow]

lemma set_wide (x : Vector Word 16) (i : Fin 16) (w : Word) :
    (x.map wide).set i (wide w) = (x.set i w).map wide :=
  Vector.map_set.symm

/-- **A quarter round** is the same on words and on the shell's numbers. -/
lemma feedbackQr_wide (x : Vector Word 16) (a b c d : Fin 16) :
    feedbackQr (x.map wide) a b c d = (quarterRound x a b c d).map wide := by
  have h16 := fun w => @wide_rotate w 16 (by decide) (by decide)
  have h12 := fun w => @wide_rotate w 12 (by decide) (by decide)
  have h8 := fun w => @wide_rotate w 8 (by decide) (by decide)
  have h7 := fun w => @wide_rotate w 7 (by decide) (by decide)
  simp only [Nat.reduceSub] at h16 h12 h8 h7
  simp only [feedbackQr, quarterRound, Fin.getElem_fin, Vector.getElem_map, wide_add, wide_xor,
    h16, h12, h8, h7, set_wide]

lemma feedbackDoubleRound_wide (x : Vector Word 16) :
    feedbackDoubleRound (x.map wide) = (doubleRound x).map wide := by
  simp only [feedbackDoubleRound, doubleRound, feedbackQr_wide]

/-- The ten turns. -/
lemma iterate_wide (x : Vector Word 16) (turns : ℕ) :
    feedbackDoubleRound^[turns] (x.map wide) = (doubleRound^[turns] x).map wide := by
  induction turns generalizing x with
  | zero => rfl
  | succ turns ih => rw [Function.iterate_succ_apply, feedbackDoubleRound_wide, ih,
      Function.iterate_succ_apply]

/-! ### Hexadecimal texts -/

/-- A byte in hexadecimal, as `{:02x}` prints it. -/
def hexByte (b : Byte) : List Char := [Nat.digitChar (b.toNat / 16), Nat.digitChar (b.toNat % 16)]

/-- Bytes in hexadecimal. -/
def hex (bytes : List Byte) : List Char := bytes.flatMap hexByte

lemma hex_cons (b : Byte) (bytes : List Byte) : hex (b :: bytes) = hexByte b ++ hex bytes := rfl

lemma length_hex (bytes : List Byte) : (hex bytes).length = 2 * bytes.length := by
  induction bytes with
  | nil => rfl
  | cons b bytes ih =>
      rw [hex_cons, List.length_append, ih, List.length_cons, hexByte, List.length_cons,
        List.length_singleton]
      ring

lemma drop_hex (bytes : List Byte) (i : ℕ) : (hex bytes).drop (i * 2) = hex (bytes.drop i) := by
  induction i generalizing bytes with
  | zero => simp
  | succ i ih =>
      cases bytes with
      | nil => simp [hex]
      | cons b bytes =>
          rw [List.drop_succ_cons, ← ih bytes, Nat.succ_mul, hex_cons, Nat.add_comm,
            ← List.drop_drop]
          rfl

/-- Two digits are those of a byte. -/
lemma substring_hex {bytes : List Byte} {i : ℕ} (h : i < bytes.length) :
    substring (hex bytes) (i * 2) 2 = hexByte bytes[i] := by
  rw [substring, drop_hex, List.drop_eq_getElem_cons h, hex_cons]
  rfl

/-- `printf` writes the two digits of a byte. -/
lemma printf02x_byte (b : Byte) : printf02x (b.setWidth 64) = hexByte b := by
  have hlt : b.toNat < 256 := b.isLt
  have hnum : (b.setWidth 64).toNat = b.toNat := by
    rw [BitVec.toNat_setWidth]
    omega
  rw [printf02x, hexByte, hnum, Text.hexText, Nat.toDigits_eq_if (by decide)]
  by_cases h : b.toNat < 16
  · rw [if_pos h, Nat.div_eq_of_lt h, Nat.mod_eq_of_lt h]
    rfl
  · have hquot : b.toNat / 16 < 16 := by omega
    rw [if_neg h, Nat.toDigits_eq_if (by decide), if_pos hquot]
    rfl

/-- The shell reads hexadecimal digits from the most significant one on. -/
lemma foldlM_hex (bytes : List Byte) (n : Num) :
    (hex bytes).foldlM (fun n c => (Text.hexDigit c).map fun d => n * 16 + BitVec.ofNat 64 d) n =
      some (bytes.foldl (fun n b => n * 256 + b.setWidth 64) n) := by
  induction bytes generalizing n with
  | nil => rfl
  | cons b bytes ih =>
      have hlt : b.toNat < 256 := b.isLt
      have hbyte : (n * 16 + BitVec.ofNat 64 (b.toNat / 16)) * 16 + BitVec.ofNat 64 (b.toNat % 16) =
          n * 256 + b.setWidth 64 := by
        have h16 : (16 : BitVec 64).toNat = 16 := rfl
        have h256 : (256 : BitVec 64).toNat = 256 := rfl
        apply BitVec.eq_of_toNat_eq
        simp only [BitVec.toNat_add, BitVec.toNat_mul, BitVec.toNat_ofNat, BitVec.toNat_setWidth,
          h16, h256]
        omega
      rw [hex_cons, List.foldlM_append, hexByte]
      have hhigh : b.toNat / 16 < 16 := by omega
      have hlow : b.toNat % 16 < 16 := by omega
      simp only [List.foldlM_cons, List.foldlM_nil, Text.hexDigit_digitChar hhigh,
        Text.hexDigit_digitChar hlow, Option.map_some, Option.bind_eq_bind, Option.bind_some,
        List.foldl_cons]
      rw [← hbyte, ← ih]
      rfl

/-- Digits of bytes are read as the number that the bytes are. -/
lemma sixteen_hex {bytes : List Byte} (h : bytes ≠ []) :
    sixteen (hex bytes) = some (bytes.foldl (fun n b => n * 256 + b.setWidth 64) 0) := by
  have hne : hex bytes ≠ [] := by
    rw [← List.length_pos_iff, length_hex]
    have := List.length_pos_iff.mpr h
    omega
  rw [sixteen, if_neg hne, foldlM_hex]

lemma sixteen_hexByte (b : Byte) : sixteen (hexByte b) = some (b.setWidth 64) := by
  have h := @sixteen_hex [b] (by simp)
  rw [hex_cons, hex, List.flatMap_nil, List.append_nil] at h
  rw [h]
  simp

/-! ### The two states -/

lemma toNat_append_byte {n : ℕ} (x : BitVec n) (b : Byte) :
    (x ++ b).toNat = x.toNat * 256 + b.toNat := by
  rw [BitVec.toNat_append, ← Nat.shiftLeft_add_eq_or_of_lt b.isLt, Nat.shiftLeft_eq]

/-- Four bytes, with the most significant one first. -/
lemma sixteen_word (b3 b2 b1 b0 : Byte) :
    sixteen (hexByte b3 ++ hexByte b2 ++ hexByte b1 ++ hexByte b0) =
      some (wide (b3 ++ b2 ++ b1 ++ b0)) := by
  have h := @sixteen_hex [b3, b2, b1, b0] (by simp)
  have hlt3 := b3.isLt
  have hlt2 := b2.isLt
  have hlt1 := b1.isLt
  have hlt0 := b0.isLt
  have hnum : [b3, b2, b1, b0].foldl (fun n b => n * 256 + b.setWidth 64) (0 : Num) =
      wide (b3 ++ b2 ++ b1 ++ b0) := by
    have h256 : (256 : BitVec 64).toNat = 256 := rfl
    have hzero : (0 : BitVec 64).toNat = 0 := rfl
    apply BitVec.eq_of_toNat_eq
    simp only [List.foldl_cons, List.foldl_nil, wide, BitVec.toNat_setWidth, toNat_append_byte,
      BitVec.toNat_add, BitVec.toNat_mul, h256, hzero]
    omega
  rw [← hnum, ← h]
  simp [hex, List.append_assoc]

/-- A word of four bytes, as the shell reads it from the last of them on. -/
lemma feedbackWord_hex {bytes : List Byte} {i : ℕ} (h : i * 4 + 4 ≤ bytes.length) :
    feedbackWord (hex bytes) i = some (wide (word (bytes.drop (i * 4)))) := by
  have hget : ∀ j (hj : i * 4 + j < bytes.length),
      (bytes.drop (i * 4)).getD j 0 = bytes[i * 4 + j] := by
    intro j hj
    rw [List.getD_eq_getElem?_getD, List.getElem?_drop, List.getElem?_eq_getElem hj,
      Option.getD_some]
  have hsub : ∀ j (hj : i * 4 + j < bytes.length), substring (hex bytes) (i * 8 + j * 2) 2 =
      hexByte bytes[i * 4 + j] := by
    intro j hj
    rw [← substring_hex hj]
    congr 1
    ring
  have h0 := hsub 0 (by omega)
  have h1 := hsub 1 (by omega)
  have h2 := hsub 2 (by omega)
  have h3 := hsub 3 (by omega)
  simp only [Nat.zero_mul, Nat.add_zero, Nat.one_mul, Nat.reduceMul] at h0 h1 h2 h3
  rw [feedbackWord, h0, h1, h2, h3, word, hget 0 (by omega), hget 1 (by omega),
    hget 2 (by omega), hget 3 (by omega)]
  exact sixteen_word _ _ _ _

/-- **The states** before the counter is set are the same. -/
lemma feedbackInit_hex (key : Vector Byte 32) (nonce : Vector Byte 12) :
    feedbackInit (hex key.toList) (hex nonce.toList) = some ((initState key nonce).map wide) := by
  have hkey : ∀ i < 8, feedbackWord (hex key.toList) i =
      some (wide (word (key.toList.drop (i * 4)))) := by
    intro i hi
    exact feedbackWord_hex (by rw [Vector.length_toList]; omega)
  have hnonce : ∀ i < 3, feedbackWord (hex nonce.toList) i =
      some (wide (word (nonce.toList.drop (i * 4)))) := by
    intro i hi
    exact feedbackWord_hex (by rw [Vector.length_toList]; omega)
  rw [feedbackInit, hkey 0 (by decide), hkey 1 (by decide), hkey 2 (by decide), hkey 3 (by decide),
    hkey 4 (by decide), hkey 5 (by decide), hkey 6 (by decide), hkey 7 (by decide),
    hnonce 0 (by decide), hnonce 1 (by decide), hnonce 2 (by decide)]
  -- the constants are left, in decimal and in hexadecimal
  simp [initState]
  decide

/-! ### The two streams -/

/-- A byte of a word, as the shell cuts it out. -/
lemma wide_byte (w : Word) (k : ℕ) :
    (wide w).sshiftRight k &&& 255 = (w.extractLsb' k 8).setWidth 64 := by
  have h255 : (255 : BitVec 64).toNat = 2 ^ 8 - 1 := rfl
  have hlt := w.isLt
  apply BitVec.eq_of_toNat_eq
  rw [wide_sshiftRight, BitVec.toNat_and, h255, Nat.and_two_pow_sub_one_eq_mod,
    BitVec.toNat_ushiftRight, BitVec.toNat_setWidth, BitVec.extractLsb'_toNat, wide,
    BitVec.toNat_setWidth, Nat.mod_eq_of_lt (by omega : w.toNat < 2 ^ 64)]
  omega

/-- The four bytes that the shell prints of a word. -/
lemma printf02x_word (w : Word) :
    printf02x (wide w &&& 255) ++ printf02x ((wide w).sshiftRight 8 &&& 255) ++
        printf02x ((wide w).sshiftRight 16 &&& 255) ++ printf02x ((wide w).sshiftRight 24 &&& 255) =
      hex (leBytes w) := by
  have h0 := wide_byte w 0
  rw [BitVec.sshiftRight_zero] at h0
  rw [h0, wide_byte, wide_byte, wide_byte, printf02x_byte, printf02x_byte, printf02x_byte,
    printf02x_byte, leBytes]
  simp [hex]

/-- **The streams** of a block are the same. -/
lemma feedbackStream_wide (state : Vector Word 16) {block : ℕ} (h : block + 1 < 2 ^ 32) :
    feedbackStream (state.map wide) (block * 64) = hex (blockStream state block) := by
  have hcounter :
      (BitVec.ofNat 64 (block * 64 / 64 + 1) : Num) = wide (BitVec.ofNat 32 block + 1) := by
    have hone : (1 : BitVec 32).toNat = 1 := rfl
    apply BitVec.eq_of_toNat_eq
    rw [Nat.mul_div_cancel _ (by decide), wide, BitVec.toNat_setWidth, BitVec.toNat_add,
      BitVec.toNat_ofNat, BitVec.toNat_ofNat, hone]
    omega
  have hstate : (state.map wide).set 12 (BitVec.ofNat 64 (block * 64 / 64 + 1)) =
      (state.set 12 (BitVec.ofNat 32 block + 1)).map wide := by
    rw [hcounter, Vector.map_set]
  rw [feedbackStream, hstate]
  simp only [iterate_wide, Fin.getElem_fin, Vector.getElem_map, wide_add, printf02x_word]
  rw [blockStream, hex, List.flatMap_assoc]
  rfl

lemma length_blockStream (state : Vector Word 16) (block : ℕ) :
    (blockStream state block).length = 64 := by
  rw [blockStream, List.length_flatMap]
  simp [leBytes]

/-! ### The two outputs -/

lemma mapM_eq_some_map {α β : Type*} {f : α → Option β} {g : α → β} {l : List α}
    (h : ∀ a ∈ l, f a = some (g a)) : l.mapM f = some (l.map g) := by
  induction l with
  | nil => rfl
  | cons a l ih =>
      rw [List.mapM_cons, h a (by simp), ih fun b hb => h b (List.mem_cons_of_mem a hb)]
      rfl

/-- **A block** of the two is the same. -/
lemma feedbackBlock_eq (state : Vector Word 16) (data : List Byte) {block : ℕ}
    (h : block + 1 < 2 ^ 32) :
    feedbackBlock (state.map wide) (hex data) (block * 64) =
      some (hex (List.zipWith (· ^^^ ·) ((data.drop (64 * block)).take 64)
        (blockStream state block))) := by
  have hlength : (hex data).length / 2 = data.length := by
    rw [length_hex]
    omega
  have hbyte : ∀ i ∈ List.range (min 64 (data.length - block * 64)),
      (do
        let byte ← sixteen (substring (hex data) ((block * 64 + i) * 2) 2)
        let key ← sixteen (substring (hex (blockStream state block)) (i * 2) 2)
        some (printf02x (byte ^^^ key))) =
      some (hexByte (data.getD (block * 64 + i) 0 ^^^ (blockStream state block).getD i 0)) := by
    intro i hi
    rw [List.mem_range, lt_min_iff] at hi
    have hdata : block * 64 + i < data.length := by omega
    have hstream : i < (blockStream state block).length := by
      rw [length_blockStream]
      exact hi.1
    rw [substring_hex hdata, substring_hex hstream, sixteen_hexByte, sixteen_hexByte,
      Option.bind_eq_bind, Option.bind_some, Option.bind_some, ← BitVec.setWidth_xor,
      printf02x_byte, List.getD_eq_getElem _ _ hdata, List.getD_eq_getElem _ _ hstream]
  have hzip : (List.range (min 64 (data.length - block * 64))).map
        (fun i => data.getD (block * 64 + i) 0 ^^^ (blockStream state block).getD i 0) =
      List.zipWith (· ^^^ ·) ((data.drop (64 * block)).take 64) (blockStream state block) := by
    refine List.ext_getElem ?_ fun i hi hi' => ?_
    · rw [List.length_map, List.length_range, List.length_zipWith, List.length_take,
        List.length_drop, length_blockStream]
      omega
    · rw [List.length_map, List.length_range] at hi
      rw [List.getElem_map, List.getElem_range, List.getElem_zipWith, List.getElem_take,
        List.getElem_drop, List.getD_eq_getElem _ _ (by omega),
        List.getD_eq_getElem _ _ (by rw [length_blockStream]; omega)]
      simp only [Nat.mul_comm]
  rw [feedbackBlock, hlength, feedbackStream_wide state h, mapM_eq_some_map hbyte,
    Option.bind_eq_bind, Option.bind_some, ← hzip, hex, List.flatMap_map]
  rfl

/-- The blocks of ssctl, one after the other. -/
lemma chacha20_eq (key : Vector Byte 32) (nonce : Vector Byte 12) (data : List Byte) :
    chacha20 key nonce data = (List.range ((data.length + 63) / 64)).flatMap fun block =>
      List.zipWith (· ^^^ ·) ((data.drop (64 * block)).take 64)
        (blockStream (initState key nonce) block) := by
  have hchunks : (chunks 64 data).zipIdx =
      (List.range ((data.length + 63) / 64)).map
        fun block => ((data.drop (64 * block)).take 64, block) := by
    refine List.ext_getElem (by simp [chunks]) fun i hi hi' => ?_
    simp [chunks]
  rw [chacha20, hchunks, List.flatMap_map]

/-- **The two outputs** are the same. -/
lemma feedbackChacha_hex (key : Vector Byte 32) (nonce : Vector Byte 12) {data : List Byte}
    (h : (data.length + 63) / 64 < 2 ^ 32) :
    feedbackChacha (hex key.toList) (hex nonce.toList) (hex data) =
      some (hex (chacha20 key nonce data)) := by
  have hlength : (hex data).length / 2 = data.length := by
    rw [length_hex]
    omega
  have hblock : ∀ block ∈ List.range ((data.length + 63) / 64),
      feedbackBlock ((initState key nonce).map wide) (hex data) (block * 64) =
        some (hex (List.zipWith (· ^^^ ·) ((data.drop (64 * block)).take 64)
          (blockStream (initState key nonce) block))) := by
    intro block hmem
    have hlt := List.mem_range.mp hmem
    exact feedbackBlock_eq _ data (by omega)
  rw [feedbackChacha, feedbackInit_hex, Option.bind_eq_bind, Option.bind_some, hlength,
    mapM_eq_some_map hblock, Option.bind_eq_bind, Option.bind_some, chacha20_eq, hex,
    List.flatMap_assoc]
  rfl

/-! ### There and back -/

/-- The byte of the stream that meets byte `i` of the data. -/
def keyByte (key : Vector Byte 32) (nonce : Vector Byte 12) (i : ℕ) : Byte :=
  (blockStream (initState key nonce) (i / 64)).getD (i % 64) 0

/-- Data in blocks of 64, one byte after the other. -/
lemma flatMap_blocks (f : ℕ → Byte → Byte) (data : List Byte) (first : ℕ) :
    (List.range ((data.length + 63) / 64)).flatMap (fun block =>
        ((data.drop (64 * block)).take 64).mapIdx fun i b => f (first + 64 * block + i) b) =
      data.mapIdx fun i b => f (first + i) b := by
  induction hlength : data.length using Nat.strong_induction_on generalizing data first with
  | _ n ih =>
      by_cases hnil : data = []
      · subst hnil hlength
        rfl
      · have hpos : 0 < data.length := List.length_pos_iff.mpr hnil
        have hblocks : (n + 63) / 64 = ((data.drop 64).length + 63) / 64 + 1 := by
          rw [List.length_drop]
          omega
        have hrest := ih (data.drop 64).length (by rw [List.length_drop]; omega) (data.drop 64)
          (first + 64) rfl
        have hsplit : (data.mapIdx fun i b => f (first + i) b) =
            (data.take 64).mapIdx (fun i b => f (first + i) b) ++
              (data.drop 64).mapIdx fun i b => f (first + 64 + i) b := by
          nth_rewrite 1 [← List.take_append_drop 64 data]
          rw [List.mapIdx_append]
          by_cases hlt : data.length ≤ 64
          · simp [List.drop_eq_nil_of_le hlt]
          · have htake : (data.take 64).length = 64 := by
              rw [List.length_take]
              omega
            simp only [htake, Nat.add_assoc, Nat.add_comm 64]
        rw [hblocks, List.range_succ_eq_map, List.flatMap_cons, List.flatMap_map, hsplit, ← hrest]
        refine congrArg₂ _ rfl (congrArg (List.flatMap · _) (funext fun block => ?_))
        simp only [Nat.succ_eq_add_one, List.drop_drop, Nat.mul_add, Nat.mul_one]
        refine congrArg₂ _ (funext fun i => ?_) (by rw [Nat.add_comm])
        ring_nf

/-- **The cipher** is one exclusive or for each byte. -/
lemma chacha20_eq_mapIdx (key : Vector Byte 32) (nonce : Vector Byte 12) (data : List Byte) :
    chacha20 key nonce data = data.mapIdx fun i b => b ^^^ keyByte key nonce i := by
  have hblock : ∀ block, List.zipWith (· ^^^ ·) ((data.drop (64 * block)).take 64)
        (blockStream (initState key nonce) block) =
      ((data.drop (64 * block)).take 64).mapIdx
        fun i b => b ^^^ keyByte key nonce (0 + 64 * block + i) := by
    intro block
    refine List.ext_getElem ?_ fun i hi hi' => ?_
    · rw [List.length_zipWith, length_blockStream, List.length_mapIdx, List.length_take]
      omega
    · rw [List.length_zipWith, length_blockStream, lt_min_iff] at hi
      have hdiv : (0 + 64 * block + i) / 64 = block := by omega
      have hmod : (0 + 64 * block + i) % 64 = i := by omega
      rw [List.getElem_zipWith, List.getElem_mapIdx, keyByte, hdiv, hmod,
        List.getD_eq_getElem _ _ (by rw [length_blockStream]; exact hi.2)]
  have hwhole := flatMap_blocks (fun i b => b ^^^ keyByte key nonce i) data 0
  simp only [Nat.zero_add] at hwhole hblock
  rw [chacha20_eq, ← hwhole]
  simp only [hblock]

/-- The cipher undoes itself. -/
lemma chacha20_chacha20 (key : Vector Byte 32) (nonce : Vector Byte 12) (data : List Byte) :
    chacha20 key nonce (chacha20 key nonce data) = data := by
  rw [chacha20_eq_mapIdx, chacha20_eq_mapIdx, List.mapIdx_mapIdx]
  refine List.ext_getElem (by simp) fun i hi hi' => ?_
  rw [List.getElem_mapIdx, Function.comp_apply, BitVec.xor_assoc, BitVec.xor_self, BitVec.xor_zero]

/-- **The two ciphers are one**: on any data of fewer than 2^32 blocks the shell computes the
hexadecimal text of what ssctl computes, and either, applied twice, gives the data back. -/
theorem ciphers_are_one (key : Vector Byte 32) (nonce : Vector Byte 12) (data : List Byte)
    (h : (data.length + 63) / 64 < 2 ^ 32) :
    feedbackChacha (hex key.toList) (hex nonce.toList) (hex data) =
        some (hex (chacha20 key nonce data)) ∧
      chacha20 key nonce (chacha20 key nonce data) = data ∧
      (feedbackChacha (hex key.toList) (hex nonce.toList) (hex data)).bind
          (feedbackChacha (hex key.toList) (hex nonce.toList)) = some (hex data) := by
  have hlength : (chacha20 key nonce data).length = data.length := by
    rw [chacha20_eq_mapIdx, List.length_mapIdx]
  have hshell := feedbackChacha_hex key nonce h
  refine ⟨hshell, chacha20_chacha20 key nonce data, ?_⟩
  rw [hshell, Option.bind_some, feedbackChacha_hex key nonce (by rwa [hlength]), chacha20_chacha20]

/-- `SEAL_KEY`. -/
def sealKey : Vector Byte 32 :=
  #v[0x9a, 0x50, 0x5f, 0xc6, 0x47, 0x34, 0xe2, 0xf2, 0xc8, 0x01, 0xa1, 0xc0, 0xe3, 0xd0, 0x31, 0xc5,
    0xff, 0x2f, 0x56, 0x62, 0xcd, 0x1b, 0xa5, 0x16, 0x24, 0xc7, 0x5d, 0xac, 0x95, 0x55, 0xde, 0x1a]

/-- `SEAL_NONCE`. -/
def sealNonce : Vector Byte 12 :=
  #v[0xa4, 0x82, 0xac, 0xf4, 0x80, 0xd0, 0x92, 0x8b, 0x3c, 0x37, 0xc7, 0x30]

/-- `SAMPLE_SEALED`, a DSN that takes two blocks. -/
def sealedSample : List Byte :=
  [0x0b, 0x3e, 0x66, 0xe8, 0x0a, 0xfc, 0x3e, 0x71, 0x8e, 0x47, 0x7e, 0x2a, 0xc6, 0xe1, 0xd0, 0xae,
    0x40, 0x25, 0xb4, 0x8c, 0x06, 0xf9, 0x23, 0xfa, 0x1b, 0x7c, 0x46, 0xec, 0x68, 0x0f, 0x6b, 0x82,
    0x4e, 0x6d, 0x0d, 0x89, 0xfa, 0xd7, 0xc4, 0xa1, 0xc1, 0xdd, 0x45, 0x70, 0x9d, 0xe9, 0x31, 0xe9,
    0x75, 0x24, 0xeb, 0xc8, 0x5f, 0xb4, 0x3e, 0x8c, 0xcd, 0xdc, 0x0a, 0x42, 0xbf, 0x36, 0x92, 0xef,
    0xa7, 0x44, 0x00, 0x1c, 0x92]

theorem ciphers_are_one_sample :
    feedbackChacha (hex sealKey.toList) (hex sealNonce.toList) (hex sealedSample) =
        some (hex (chacha20 sealKey sealNonce sealedSample)) ∧
      chacha20 sealKey sealNonce (chacha20 sealKey sealNonce sealedSample) = sealedSample ∧
      (feedbackChacha (hex sealKey.toList) (hex sealNonce.toList) (hex sealedSample)).bind
          (feedbackChacha (hex sealKey.toList) (hex sealNonce.toList)) = some (hex sealedSample) :=
  ciphers_are_one sealKey sealNonce sealedSample (by decide)

example : chacha20 sealKey sealNonce (sealedSample.take 8) =
    [0x68, 0x74, 0x74, 0x70, 0x73, 0x3a, 0x2f, 0x2f] := by decide +kernel

end SkylineSpeeder.Feedback
