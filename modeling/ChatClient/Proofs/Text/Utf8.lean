import ChatClient.Text.Utf8
import Mathlib.Tactic.Common

/-!
# Reading and writing UTF-8

The bytes of a character are read as that character, whatever follows them (`scan_encodeChar`), and
only these bytes are (`eq_encode_of_decode?`). So the sequences that strict reading accepts are just
the encoded texts (`decode?_eq_some_iff`), and what is said of well-formed bytes can be said of
texts.

A byte below 0x80 stands in an encoded text only for its own character (`mem_of_mem_encode`,
`head?_of_head?_encode`, `getLast?_of_getLast?_encode`).
-/

namespace ChatClient.Utf8

/-! ## Ranges of bytes -/

theorem within_iff {lo hi b : UInt8} :
    within lo hi b = true ↔ lo.toNat ≤ b.toNat ∧ b.toNat ≤ hi.toNat := by
  simp [within, UInt8.le_iff_toNat_le]

theorem within_eq_false_iff {lo hi b : UInt8} :
    within lo hi b = false ↔ b.toNat < lo.toNat ∨ hi.toNat < b.toNat := by
  rw [← Bool.not_eq_true, within_iff]
  omega

theorem not_lt_of_within {lo hi a : UInt8} (h : within lo hi a = true) (le : 0x80 ≤ lo.toNat) :
    ¬a < 0x80 := by
  have range := within_iff.1 h
  rw [UInt8.lt_iff_toNat_lt]
  show ¬a.toNat < 128
  omega

theorem isContinuation_iff {b : UInt8} :
    isContinuation b = true ↔ 0x80 ≤ b.toNat ∧ b.toNat ≤ 0xBF := within_iff

theorem secondOfThree_iff {a b : UInt8} :
    secondOfThree a b = true ↔
      0x80 ≤ b.toNat ∧ b.toNat ≤ 0xBF ∧ (a.toNat = 0xE0 → 0xA0 ≤ b.toNat) ∧
        (a.toNat = 0xED → b.toNat ≤ 0x9F) := by
  have e0 : a = 0xE0 ↔ a.toNat = 0xE0 := UInt8.toNat_inj.symm
  have ed : a = 0xED ↔ a.toNat = 0xED := UInt8.toNat_inj.symm
  unfold secondOfThree isContinuation
  simp only [beq_iff_eq, e0, ed]
  split
  · rw [within_iff]
    show 160 ≤ b.toNat ∧ b.toNat ≤ 191 ↔ _
    omega
  · split
    · rw [within_iff]
      show 128 ≤ b.toNat ∧ b.toNat ≤ 159 ↔ _
      omega
    · rw [within_iff]
      show 128 ≤ b.toNat ∧ b.toNat ≤ 191 ↔ _
      omega

theorem secondOfFour_iff {a b : UInt8} :
    secondOfFour a b = true ↔
      0x80 ≤ b.toNat ∧ b.toNat ≤ 0xBF ∧ (a.toNat = 0xF0 → 0x90 ≤ b.toNat) ∧
        (a.toNat = 0xF4 → b.toNat ≤ 0x8F) := by
  have f0 : a = 0xF0 ↔ a.toNat = 0xF0 := UInt8.toNat_inj.symm
  have f4 : a = 0xF4 ↔ a.toNat = 0xF4 := UInt8.toNat_inj.symm
  unfold secondOfFour isContinuation
  simp only [beq_iff_eq, f0, f4]
  split
  · rw [within_iff]
    show 144 ≤ b.toNat ∧ b.toNat ≤ 191 ↔ _
    omega
  · split
    · rw [within_iff]
      show 128 ≤ b.toNat ∧ b.toNat ≤ 143 ↔ _
      omega
    · rw [within_iff]
      show 128 ≤ b.toNat ∧ b.toNat ≤ 191 ↔ _
      omega

/-! ## From bytes to a character -/

section Scan

variable {a b c d : UInt8} (r : Bytes)

theorem scan_two (ha : within 0xC2 0xDF a = true) (hb : isContinuation b = true) :
    scan (a :: b :: r) = some (Char.ofNat ((a.toNat % 32) * 64 + payload b)) :: scan r := by
  have high := not_lt_of_within ha (by decide)
  rw [scan.eq_def]
  simp only [high, ha, hb, if_true, if_false]

theorem scan_three (ha : within 0xE0 0xEF a = true) (hb : secondOfThree a b = true)
    (hc : isContinuation c = true) :
    scan (a :: b :: c :: r) =
      some (Char.ofNat ((a.toNat % 16) * 4096 + payload b * 64 + payload c)) :: scan r := by
  have high := not_lt_of_within ha (by decide)
  have range := within_iff.1 ha
  have two : within 0xC2 0xDF a = false := within_eq_false_iff.2 (.inr range.1)
  rw [scan.eq_def]
  simp only [high, two, ha, hb, hc, if_true, if_false, Bool.false_eq_true]

theorem scan_four (ha : within 0xF0 0xF4 a = true) (hb : secondOfFour a b = true)
    (hc : isContinuation c = true) (hd : isContinuation d = true) :
    scan (a :: b :: c :: d :: r) =
      some (Char.ofNat ((a.toNat % 8) * 262144 + payload b * 4096 + payload c * 64 + payload d)) ::
        scan r := by
  have high := not_lt_of_within ha (by decide)
  have range := within_iff.1 ha
  have two : within 0xC2 0xDF a = false :=
    within_eq_false_iff.2 (.inr (Nat.lt_of_lt_of_le (by decide) range.1))
  have three : within 0xE0 0xEF a = false := within_eq_false_iff.2 (.inr range.1)
  rw [scan.eq_def]
  simp only [high, two, three, ha, hb, hc, hd, if_true, if_false, Bool.false_eq_true]

end Scan

theorem toNat_ofNat_byte {n : Nat} (h : n < 256) : (UInt8.ofNat n).toNat = n := by
  rw [UInt8.toNat_ofNat']
  omega

/-- The byte for six bits of a number is a continuation. -/
theorem isContinuation_sixBits (n : Nat) : isContinuation (UInt8.ofNat (n % 64 + 128)) = true := by
  rw [isContinuation_iff, toNat_ofNat_byte (by omega)]
  omega

theorem payload_sixBits (n : Nat) : payload (UInt8.ofNat (n % 64 + 128)) = n % 64 := by
  rw [payload, toNat_ofNat_byte (by omega)]
  omega

/-- The bytes of a character are read as that character, whatever follows. -/
theorem scan_encodeChar (c : Char) (r : Bytes) :
    scan (String.utf8EncodeChar c ++ r) = some c :: scan r := by
  have valid : c.toNat < 0xD800 ∨ 0xDFFF < c.toNat ∧ c.toNat < 0x110000 := c.valid
  have back {n : Nat} (h : n = c.toNat) : Char.ofNat n = c := by rw [h, Char.ofNat_toNat]
  have value : c.val.toNat = c.toNat := rfl
  unfold String.utf8EncodeChar
  simp only [value]
  -- one to four bytes
  split
  · have lead := toNat_ofNat_byte (n := c.toNat) (by omega)
    have low : UInt8.ofNat c.toNat < 0x80 := by
      rw [UInt8.lt_iff_toNat_lt, lead]
      show c.toNat < 128
      omega
    rw [List.singleton_append, scan_cons_ascii r low, lead, Char.ofNat_toNat]
  · split
    · have lead := toNat_ofNat_byte (n := c.toNat / 64 % 32 + 192) (by omega)
      have range : within 0xC2 0xDF (UInt8.ofNat (c.toNat / 64 % 32 + 192)) = true := by
        rw [within_iff, lead]
        show 194 ≤ _ ∧ _ ≤ 223
        omega
      rw [List.cons_append, List.singleton_append,
        scan_two r range (isContinuation_sixBits _), payload_sixBits, lead, back]
      omega
    · split
      · have lead := toNat_ofNat_byte (n := c.toNat / 4096 % 16 + 224) (by omega)
        have second := toNat_ofNat_byte (n := c.toNat / 64 % 64 + 128) (by omega)
        have range : within 0xE0 0xEF (UInt8.ofNat (c.toNat / 4096 % 16 + 224)) = true := by
          rw [within_iff, lead]
          show 224 ≤ _ ∧ _ ≤ 239
          omega
        rw [List.cons_append, List.cons_append, List.singleton_append,
          scan_three r range _ (isContinuation_sixBits _), payload_sixBits, payload_sixBits, lead,
          back]
        · omega
        · rw [secondOfThree_iff, lead, second]
          omega
      · have lead := toNat_ofNat_byte (n := c.toNat / 262144 % 8 + 240) (by omega)
        have second := toNat_ofNat_byte (n := c.toNat / 4096 % 64 + 128) (by omega)
        have range : within 0xF0 0xF4 (UInt8.ofNat (c.toNat / 262144 % 8 + 240)) = true := by
          rw [within_iff, lead]
          show 240 ≤ _ ∧ _ ≤ 244
          omega
        rw [List.cons_append, List.cons_append, List.cons_append, List.singleton_append,
          scan_four r range _ (isContinuation_sixBits _) (isContinuation_sixBits _),
          payload_sixBits, payload_sixBits, payload_sixBits, lead, back]
        · omega
        · rw [secondOfFour_iff, lead, second]
          omega

/-! ## From a character to bytes -/

theorem toNat_ofNat_scalar {n : Nat} (h : n < 0xD800 ∨ 0xDFFF < n ∧ n < 0x110000) :
    (Char.ofNat n).toNat = n := by
  have valid : n.isValidChar := h
  rw [Char.ofNat, dif_pos valid]
  rfl

/-- The bytes of the character with a given number. -/
theorem encodeChar_ofNat {n : Nat} (h : n < 0xD800 ∨ 0xDFFF < n ∧ n < 0x110000) :
    String.utf8EncodeChar (Char.ofNat n) =
      if n ≤ 127 then [UInt8.ofNat n]
      else if n ≤ 2047 then [UInt8.ofNat (n / 64 % 32 + 192), UInt8.ofNat (n % 64 + 128)]
      else if n ≤ 65535 then
        [UInt8.ofNat (n / 4096 % 16 + 224), UInt8.ofNat (n / 64 % 64 + 128),
          UInt8.ofNat (n % 64 + 128)]
      else
        [UInt8.ofNat (n / 262144 % 8 + 240), UInt8.ofNat (n / 4096 % 64 + 128),
          UInt8.ofNat (n / 64 % 64 + 128), UInt8.ofNat (n % 64 + 128)] := by
  have value : (Char.ofNat n).val.toNat = n := toNat_ofNat_scalar h
  rw [String.utf8EncodeChar]
  simp only [value]

theorem ofNat_eq_of_eq_toNat {a : UInt8} {n : Nat} (h : n = a.toNat) : UInt8.ofNat n = a := by
  rw [h, UInt8.ofNat_toNat]

section Encode

variable {a b c d : UInt8}

theorem encodeChar_one (h : a < 0x80) : String.utf8EncodeChar (Char.ofNat a.toNat) = [a] := by
  have low : a.toNat < 128 := UInt8.lt_iff_toNat_lt.1 h
  rw [encodeChar_ofNat (by omega), if_pos (by omega), UInt8.ofNat_toNat]

theorem encodeChar_two (ha : within 0xC2 0xDF a = true) (hb : isContinuation b = true) :
    String.utf8EncodeChar (Char.ofNat ((a.toNat % 32) * 64 + payload b)) = [a, b] := by
  have lead : 194 ≤ a.toNat ∧ a.toNat ≤ 223 := within_iff.1 ha
  have last := isContinuation_iff.1 hb
  unfold payload
  rw [encodeChar_ofNat (by omega), if_neg (by omega), if_pos (by omega), ofNat_eq_of_eq_toNat,
    ofNat_eq_of_eq_toNat]
  · omega
  · omega

theorem encodeChar_three (ha : within 0xE0 0xEF a = true) (hb : secondOfThree a b = true)
    (hc : isContinuation c = true) :
    String.utf8EncodeChar
      (Char.ofNat ((a.toNat % 16) * 4096 + payload b * 64 + payload c)) = [a, b, c] := by
  have lead : 224 ≤ a.toNat ∧ a.toNat ≤ 239 := within_iff.1 ha
  have second := secondOfThree_iff.1 hb
  have last := isContinuation_iff.1 hc
  unfold payload
  rw [encodeChar_ofNat (by omega), if_neg (by omega), if_neg (by omega), if_pos (by omega),
    ofNat_eq_of_eq_toNat, ofNat_eq_of_eq_toNat, ofNat_eq_of_eq_toNat]
  · omega
  · omega
  · omega

theorem encodeChar_four (ha : within 0xF0 0xF4 a = true) (hb : secondOfFour a b = true)
    (hc : isContinuation c = true) (hd : isContinuation d = true) :
    String.utf8EncodeChar
      (Char.ofNat ((a.toNat % 8) * 262144 + payload b * 4096 + payload c * 64 + payload d)) =
        [a, b, c, d] := by
  have lead : 240 ≤ a.toNat ∧ a.toNat ≤ 244 := within_iff.1 ha
  have second := secondOfFour_iff.1 hb
  have third := isContinuation_iff.1 hc
  have last := isContinuation_iff.1 hd
  unfold payload
  rw [encodeChar_ofNat (by omega), if_neg (by omega), if_neg (by omega), if_neg (by omega),
    ofNat_eq_of_eq_toNat, ofNat_eq_of_eq_toNat, ofNat_eq_of_eq_toNat, ofNat_eq_of_eq_toNat]
  · omega
  · omega
  · omega
  · omega

end Encode

/-! ## Texts -/

@[simp] theorem encode_nil : encode [] = [] := rfl

theorem encode_cons (c : Char) (s : List Char) :
    encode (c :: s) = String.utf8EncodeChar c ++ encode s := List.flatMap_cons

@[simp] theorem encode_append (s t : List Char) : encode (s ++ t) = encode s ++ encode t :=
  List.flatMap_append

theorem scan_encode (s : List Char) : scan (encode s) = s.map some := by
  induction s with
  | nil => rfl
  | cons c s ih => rw [encode_cons, scan_encodeChar, ih, List.map_cons]

theorem allSome_map_some (s : List Char) : allSome (s.map some) = some s := by
  induction s with
  | nil => rfl
  | cons c s ih => rw [List.map_cons, allSome, ih, Option.map_some]

/-- An encoded text is read back. -/
theorem decode?_encode (s : List Char) : decode? (encode s) = some s := by
  rw [decode?, scan_encode, allSome_map_some]

theorem decodeLossy_encode (s : List Char) : decodeLossy (encode s) = s :=
  decodeLossy_of_decode (decode?_encode s)

theorem allSome_cons_eq_some_iff {c : Char} {steps : List (Option Char)} {s : List Char} :
    allSome (some c :: steps) = some s ↔ ∃ t, allSome steps = some t ∧ c :: t = s := by
  rw [allSome, Option.map_eq_some_iff]

/-- Only an encoded text is well formed. -/
theorem eq_encode_of_decode? {bs : Bytes} {s : List Char} (h : decode? bs = some s) :
    bs = encode s := by
  unfold decode? at h
  fun_induction scan bs generalizing s with
  | case1 =>
      cases h
      rfl
  | case2 a r low ih =>
      obtain ⟨t, ht, rfl⟩ := allSome_cons_eq_some_iff.1 h
      rw [ih ht, encode_cons, encodeChar_one low]
      rfl
  | case4 a high lead b r hb ih =>
      obtain ⟨t, ht, rfl⟩ := allSome_cons_eq_some_iff.1 h
      rw [ih ht, encode_cons, encodeChar_two lead hb]
      rfl
  | case8 a high _ lead b hb c r hc ih =>
      obtain ⟨t, ht, rfl⟩ := allSome_cons_eq_some_iff.1 h
      rw [ih ht, encode_cons, encodeChar_three lead hb hc]
      rfl
  | case14 a high _ _ lead b hb c hc d r hd ih =>
      obtain ⟨t, ht, rfl⟩ := allSome_cons_eq_some_iff.1 h
      rw [ih ht, encode_cons, encodeChar_four lead hb hc hd]
      rfl
  -- the other cases find an ill-formed part
  | _ => simp [allSome] at h

/-- The well-formed sequences are the encoded texts. -/
theorem decode?_eq_some_iff {bs : Bytes} {s : List Char} : decode? bs = some s ↔ bs = encode s := by
  constructor
  · exact eq_encode_of_decode?
  · rintro rfl
    exact decode?_encode s

theorem decode?_append {x y : Bytes} {s t : List Char} (hx : decode? x = some s)
    (hy : decode? y = some t) : decode? (x ++ y) = some (s ++ t) := by
  rw [decode?_eq_some_iff] at *
  rw [hx, hy, encode_append]

/-! ## ASCII in texts -/

/-- The bytes of a character that is not ASCII are not ASCII either. -/
theorem le_of_mem_encodeChar {c : Char} (high : 127 < c.toNat) :
    ∀ a ∈ String.utf8EncodeChar c, 128 ≤ a.toNat := by
  have more : ¬c.val.toNat ≤ 127 := Nat.not_le.2 high
  have no_more : ∀ a ∈ ([] : Bytes), 128 ≤ a.toNat := by simp
  unfold String.utf8EncodeChar
  dsimp only
  rw [if_neg more]
  split
  · simp only [List.forall_mem_cons, UInt8.toNat_ofNat', Nat.reducePow]
    exact ⟨by omega, by omega, no_more⟩
  · split
    · simp only [List.forall_mem_cons, UInt8.toNat_ofNat', Nat.reducePow]
      exact ⟨by omega, by omega, by omega, no_more⟩
    · simp only [List.forall_mem_cons, UInt8.toNat_ofNat', Nat.reducePow]
      exact ⟨by omega, by omega, by omega, by omega, no_more⟩

/-- An ASCII byte stands for its own character. -/
theorem eq_ofNat_of_mem_encodeChar {c : Char} {a : UInt8} (h : a ∈ String.utf8EncodeChar c)
    (low : a < 0x80) : c = Char.ofNat a.toNat := by
  have small : a.toNat < 128 := UInt8.lt_iff_toNat_lt.1 low
  have one : c.toNat ≤ 127 := by
    by_contra high
    have le := le_of_mem_encodeChar (Nat.lt_of_not_le high) a h
    omega
  have value : c.val.toNat = c.toNat := rfl
  unfold String.utf8EncodeChar at h
  simp only [value, one, if_true, List.mem_singleton] at h
  rw [h, toNat_ofNat_byte (by omega), Char.ofNat_toNat]

theorem mem_of_mem_encode {s : List Char} {a : UInt8} (h : a ∈ encode s) (low : a < 0x80) :
    Char.ofNat a.toNat ∈ s := by
  obtain ⟨c, hc, ha⟩ := List.mem_flatMap.1 h
  rwa [← eq_ofNat_of_mem_encodeChar ha low]

/-- The text of a sequence that begins with an ASCII byte begins with its character. -/
theorem head?_of_head?_encode {s : List Char} {a : UInt8} (h : (encode s).head? = some a)
    (low : a < 0x80) : s.head? = some (Char.ofNat a.toNat) := by
  cases s with
  | nil => cases h
  | cons c s =>
      have one := scan_encodeChar c (encode s)
      obtain ⟨rest, split⟩ := List.head?_eq_some_iff.1 h
      rw [← encode_cons, split, scan_cons_ascii rest low] at one
      rw [List.head?_cons, (List.cons.inj one).1]

/-- The text of a sequence that ends with an ASCII byte ends with its character. -/
theorem getLast?_of_getLast?_encode {s : List Char} {a : UInt8}
    (h : (encode s).getLast? = some a) (low : a < 0x80) :
    s.getLast? = some (Char.ofNat a.toNat) := by
  rcases List.eq_nil_or_concat s with rfl | ⟨s, c, rfl⟩
  · cases h
  · have mem : a ∈ String.utf8EncodeChar c := by
      rw [List.concat_eq_append, encode_append, encode_cons, encode_nil, List.append_nil,
        List.getLast?_append] at h
      cases last : (String.utf8EncodeChar c).getLast? with
      | none =>
          -- a character has at least one byte
          have one := scan_encodeChar c []
          rw [List.getLast?_eq_none_iff.1 last] at one
          cases one
      | some b =>
          rw [last, Option.some_or] at h
          cases h
          exact List.mem_of_getLast? last
    rw [List.concat_eq_append, List.getLast?_concat, eq_ofNat_of_mem_encodeChar mem low]

/-! ## Parts of a sequence -/

/-- An ASCII byte continues no character. -/
theorem ranges_of_ascii {a : UInt8} (low : a < 0x80) :
    isContinuation a = false ∧ ∀ lead, secondOfThree lead a = false ∧ secondOfFour lead a = false := by
  have small : a.toNat < 128 := UInt8.lt_iff_toNat_lt.1 low
  refine ⟨?_, fun lead => ⟨?_, ?_⟩⟩
  · rw [← Bool.not_eq_true, isContinuation_iff]
    omega
  · rw [← Bool.not_eq_true, secondOfThree_iff]
    omega
  · rw [← Bool.not_eq_true, secondOfFour_iff]
    omega

section Parts

variable {a : UInt8} (low : a < 0x80) (x y : Bytes)

include low

/-- What stands before an ASCII byte is read as if it ended there. -/
theorem scan_append_ascii : scan (x ++ a :: y) = scan x ++ scan (a :: y) := by
  obtain ⟨continuation, second⟩ := ranges_of_ascii low
  fun_induction scan x with
  | case1 => rfl
  | case2 b r ascii ih =>
      rw [List.cons_append, scan_cons_ascii _ ascii, ih, List.cons_append]
  | case4 b high lead c r hc ih =>
      rw [List.cons_append, List.cons_append, scan_two _ lead hc, ih, List.cons_append]
  | case8 b high not_two lead c hc d r hd ih =>
      rw [List.cons_append, List.cons_append, List.cons_append, scan_three _ lead hc hd, ih,
        List.cons_append]
  | case14 b high not_two not_three lead c hc d hd e r he ih =>
      rw [List.cons_append, List.cons_append, List.cons_append, List.cons_append,
        scan_four _ lead hc hd he, ih, List.cons_append]
  -- an ill-formed part stays one, as the ASCII byte does not complete it
  | _ =>
      rw [scan.eq_def]
      simp_all

theorem decodeLossy_append_ascii :
    decodeLossy (x ++ a :: y) = decodeLossy x ++ Char.ofNat a.toNat :: decodeLossy y := by
  rw [decodeLossy, scan_append_ascii low, scan_cons_ascii y low, List.map_append, List.map_cons]
  rfl

/-- Parts that an ASCII byte divides are well formed just if the whole is. -/
theorem decode?_append_ascii_iff {s : List Char} :
    decode? (x ++ a :: y) = some s ↔
      ∃ t u, decode? x = some t ∧ decode? y = some u ∧ s = t ++ Char.ofNat a.toNat :: u := by
  rw [decode?, scan_append_ascii low, scan_cons_ascii y low]
  unfold decode?
  generalize scan x = steps
  induction steps generalizing s with
  | nil =>
      rw [List.nil_append, allSome_cons_eq_some_iff]
      constructor
      · rintro ⟨u, hu, rfl⟩
        exact ⟨[], u, rfl, hu, rfl⟩
      · rintro ⟨t, u, ht, hu, rfl⟩
        cases ht
        exact ⟨u, hu, rfl⟩
  | cons step steps ih =>
      cases step with
      | none => simp [allSome]
      | some c =>
          rw [List.cons_append, allSome_cons_eq_some_iff]
          constructor
          · rintro ⟨s, h, rfl⟩
            obtain ⟨t, u, ht, hu, rfl⟩ := ih.1 h
            exact ⟨c :: t, u, allSome_cons_eq_some_iff.2 ⟨t, ht, rfl⟩, hu, rfl⟩
          · rintro ⟨t, u, ht, hu, rfl⟩
            obtain ⟨t', ht', rfl⟩ := allSome_cons_eq_some_iff.1 ht
            exact ⟨_, ih.2 ⟨t', u, ht', hu, rfl⟩, rfl⟩

end Parts

end ChatClient.Utf8
