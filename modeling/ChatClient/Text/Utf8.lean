/-!
# Reading UTF-8

A byte sequence is cut into steps: each step is a well-formed character or a maximal ill-formed
part (Unicode, section 3.9, the practice of substituting maximal subparts). Strict reading
accepts only sequences whose steps are all characters; lossy reading puts U+FFFD for each
ill-formed part. The two readings agree wherever the strict one succeeds (`decodeLossy_of_decode`).
-/

namespace ChatClient.Utf8

/-- A sequence of bytes. -/
abbrev Bytes := List UInt8

/-- The byte `b` lies in the range from `lo` to `hi`. -/
def within (lo hi b : UInt8) : Bool := lo ≤ b && b ≤ hi

/-- A byte that continues a character. -/
def isContinuation (b : UInt8) : Bool := within 0x80 0xBF b

/-- The six payload bits of a continuation byte. -/
def payload (b : UInt8) : Nat := b.toNat % 64

/-- The range of the second byte after the lead byte of a three-byte character: no overlong form
and no surrogate. -/
def secondOfThree (lead b : UInt8) : Bool :=
  if lead == 0xE0 then within 0xA0 0xBF b
  else if lead == 0xED then within 0x80 0x9F b
  else isContinuation b

/-- The range of the second byte after the lead byte of a four-byte character: no overlong form
and nothing above U+10FFFF. -/
def secondOfFour (lead b : UInt8) : Bool :=
  if lead == 0xF0 then within 0x90 0xBF b
  else if lead == 0xF4 then within 0x80 0x8F b
  else isContinuation b

/-- The steps of a byte sequence: `some c` for a well-formed character, `none` for a maximal
ill-formed part. -/
def scan : Bytes → List (Option Char)
  | [] => []
  | a :: r =>
      if a < 0x80 then some (Char.ofNat a.toNat) :: scan r
      -- two bytes: the leads 0xC0 and 0xC1 could only begin overlong forms
      else if within 0xC2 0xDF a then
        match r with
        | [] => [none]
        | b :: r₁ =>
            if isContinuation b then
              some (Char.ofNat ((a.toNat % 32) * 64 + payload b)) :: scan r₁
            else none :: scan (b :: r₁)
      -- three bytes
      else if within 0xE0 0xEF a then
        match r with
        | [] => [none]
        | b :: r₁ =>
            if secondOfThree a b then
              match r₁ with
              | [] => [none]
              | c :: r₂ =>
                  if isContinuation c then
                    some (Char.ofNat ((a.toNat % 16) * 4096 + payload b * 64 + payload c)) ::
                      scan r₂
                  else none :: scan (c :: r₂)
            else none :: scan (b :: r₁)
      -- four bytes
      else if within 0xF0 0xF4 a then
        match r with
        | [] => [none]
        | b :: r₁ =>
            if secondOfFour a b then
              match r₁ with
              | [] => [none]
              | c :: r₂ =>
                  if isContinuation c then
                    match r₂ with
                    | [] => [none]
                    | d :: r₃ =>
                        if isContinuation d then
                          some (Char.ofNat ((a.toNat % 8) * 262144 + payload b * 4096 +
                            payload c * 64 + payload d)) :: scan r₃
                        else none :: scan (d :: r₃)
                  else none :: scan (c :: r₂)
            else none :: scan (b :: r₁)
      -- a byte that begins nothing
      else none :: scan r

/-- All the characters of a list of steps, if every step is one. -/
def allSome : List (Option Char) → Option (List Char)
  | [] => some []
  | none :: _ => none
  | some c :: r => (allSome r).map (c :: ·)

/-- Strict reading: the text of a well-formed sequence. -/
def decode? (bs : Bytes) : Option (List Char) := allSome (scan bs)

/-- Lossy reading: U+FFFD in the place of each ill-formed part. -/
def decodeLossy (bs : Bytes) : List Char := (scan bs).map (·.getD (Char.ofNat 0xFFFD))

/-- The bytes of a text. -/
def encode (s : List Char) : Bytes := s.flatMap String.utf8EncodeChar

theorem map_getD_of_allSome {steps : List (Option Char)} {s : List Char} (d : Char)
    (h : allSome steps = some s) : steps.map (·.getD d) = s := by
  induction steps generalizing s with
  | nil => simpa [allSome] using h
  | cons a r ih =>
      cases a with
      | none => simp [allSome] at h
      | some c =>
          simp only [allSome, Option.map_eq_some_iff] at h
          obtain ⟨u, hu, rfl⟩ := h
          simp [ih hu]

/-- Where strict reading succeeds, lossy reading gives the same text. -/
theorem decodeLossy_of_decode {bs : Bytes} {s : List Char} (h : decode? bs = some s) :
    decodeLossy bs = s :=
  map_getD_of_allSome _ h

theorem scan_nil : scan [] = [] := rfl

/-- An ASCII byte is a character of its own. -/
theorem scan_cons_ascii {a : UInt8} (r : Bytes) (h : a < 0x80) :
    scan (a :: r) = some (Char.ofNat a.toNat) :: scan r := by
  rw [scan.eq_def]
  simp [h]

end ChatClient.Utf8
