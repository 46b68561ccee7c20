/-!
UTF-8. `encode` writes every character in its one shortest form; `decode?` reads exactly the texts
so written. `WellFormed` is the same language given by its byte ranges: no overlong form, no
surrogate, nothing above the last character.
-/

namespace SecretVault

abbrev Bytes := List UInt8

namespace Utf8

def encodeChar (c : Char) : Bytes :=
  let n := c.toNat
  if n < 0x80 then [UInt8.ofNat n]
  else if n < 0x800 then [UInt8.ofNat (0xc0 + n / 64), UInt8.ofNat (0x80 + n % 64)]
  else if n < 0x10000 then
    [UInt8.ofNat (0xe0 + n / 4096), UInt8.ofNat (0x80 + n / 64 % 64),
      UInt8.ofNat (0x80 + n % 64)]
  else
    [UInt8.ofNat (0xf0 + n / 262144), UInt8.ofNat (0x80 + n / 4096 % 64),
      UInt8.ofNat (0x80 + n / 64 % 64), UInt8.ofNat (0x80 + n % 64)]

def encode (cs : List Char) : Bytes :=
  cs.flatMap encodeChar

/-- A byte that continues a character. -/
def isContinuation (b : UInt8) : Bool :=
  0x80 ≤ b.toNat && b.toNat ≤ 0xbf

/-- The first two bytes of a character of three bytes. The second byte's range rules out overlong
forms after `0xe0` and surrogates after `0xed`. -/
def startsThree (a b : UInt8) : Bool :=
  let m := a.toNat
  let n := b.toNat
  (m == 0xe0 && 0xa0 ≤ n && n ≤ 0xbf)
    || (0xe1 ≤ m && m ≤ 0xef && m ≠ 0xed && 0x80 ≤ n && n ≤ 0xbf)
    || (m == 0xed && 0x80 ≤ n && n ≤ 0x9f)

/-- The first two bytes of a character of four bytes. The second byte's range rules out overlong
forms after `0xf0` and values above the last character after `0xf4`. -/
def startsFour (a b : UInt8) : Bool :=
  let m := a.toNat
  let n := b.toNat
  (m == 0xf0 && 0x90 ≤ n && n ≤ 0xbf)
    || (0xf1 ≤ m && m ≤ 0xf3 && 0x80 ≤ n && n ≤ 0xbf)
    || (m == 0xf4 && 0x80 ≤ n && n ≤ 0x8f)

def charOfTwo (a b : UInt8) : Char :=
  Char.ofNat ((a.toNat - 0xc0) * 64 + (b.toNat - 0x80))

def charOfThree (a b c : UInt8) : Char :=
  Char.ofNat ((a.toNat - 0xe0) * 4096 + (b.toNat - 0x80) * 64 + (c.toNat - 0x80))

def charOfFour (a b c d : UInt8) : Char :=
  Char.ofNat ((a.toNat - 0xf0) * 262144 + (b.toNat - 0x80) * 4096 + (c.toNat - 0x80) * 64
    + (d.toNat - 0x80))

/-- The text that the bytes spell, if they spell one. -/
def decode? : Bytes → Option (List Char)
  | [] => some []
  | a :: s₁ =>
    if a.toNat < 0x80 then (decode? s₁).map (Char.ofNat a.toNat :: ·)
    else match s₁ with
      | [] => none
      | b :: s₂ =>
        if 0xc2 ≤ a.toNat && a.toNat ≤ 0xdf && isContinuation b then
          (decode? s₂).map (charOfTwo a b :: ·)
        else match s₂ with
          | [] => none
          | c :: s₃ =>
            if startsThree a b && isContinuation c then
              (decode? s₃).map (charOfThree a b c :: ·)
            else match s₃ with
              | [] => none
              | d :: s₄ =>
                if startsFour a b && isContinuation c && isContinuation d then
                  (decode? s₄).map (charOfFour a b c d :: ·)
                else none

/-- The character that the bytes begin with, and the bytes after it. -/
def leading? : Bytes → Option (Char × Bytes)
  | a :: s =>
    if a.toNat < 0x80 then some (Char.ofNat a.toNat, s)
    else match s with
      | b :: s =>
        if 0xc2 ≤ a.toNat && a.toNat ≤ 0xdf && isContinuation b then some (charOfTwo a b, s)
        else match s with
          | c :: s =>
            if startsThree a b && isContinuation c then some (charOfThree a b c, s)
            else match s with
              | d :: s =>
                if startsFour a b && isContinuation c && isContinuation d then
                  some (charOfFour a b c d, s)
                else none
              | [] => none
          | [] => none
      | [] => none
  | [] => none

/-- The text that the bytes begin with, and the bytes after it, within a number of characters. -/
def decodeUpTo : Nat → Bytes → List Char × Bytes
  | 0, s => ([], s)
  | fuel + 1, s =>
    match leading? s with
    | none => ([], s)
    | some (c, s) =>
      let (cs, s) := decodeUpTo fuel s
      (c :: cs, s)

/-- Whether the bytes are the beginning of a character and end before its end. -/
def isCutOff : Bytes → Bool
  | [a] => 0xc2 ≤ a.toNat && a.toNat ≤ 0xf4
  | [a, b] => startsThree a b || startsFour a b
  | [a, b, c] => startsFour a b && isContinuation c
  | _ => false

/-- The byte strings that spell a text, by the ranges of their bytes. -/
inductive WellFormed : Bytes → Prop where
  | nil : WellFormed []
  | one {a s} : a.toNat < 0x80 → WellFormed s → WellFormed (a :: s)
  | two {a b s} : 0xc2 ≤ a.toNat → a.toNat ≤ 0xdf → isContinuation b = true →
      WellFormed s → WellFormed (a :: b :: s)
  | three {a b c s} : startsThree a b = true → isContinuation c = true →
      WellFormed s → WellFormed (a :: b :: c :: s)
  | four {a b c d s} : startsFour a b = true → isContinuation c = true →
      isContinuation d = true → WellFormed s → WellFormed (a :: b :: c :: d :: s)

def ofString (s : String) : Bytes :=
  encode s.toList

/-- The string that the bytes spell, if they spell one. -/
def toString? (b : Bytes) : Option String :=
  (decode? b).map String.ofList

end Utf8

end SecretVault
