import SecretVault.Text.Utf8

/-!
Encoding and decoding are inverse. Bytes that spell a text are the bytes of that text, so a value
that travels as text arrives as the bytes that were sent; and every text is read back from its
bytes. The bytes of texts are the well-formed ones, which are also those that strings are stored in.
A character of each length has one lemma.
-/

namespace SecretVault.Utf8

/-! ## One character -/

theorem toNat_char {n : Nat} (h : n.isValidChar) : (Char.ofNat n).toNat = n := by
  rw [Char.ofNat, dif_pos h]
  rfl

theorem encodeChar_one {a : UInt8} (h : a.toNat < 0x80) :
    encodeChar (Char.ofNat a.toNat) = [a] := by
  have valid : a.toNat.isValidChar := .inl (by omega)
  simp only [encodeChar, toNat_char valid, h, if_true, UInt8.ofNat_toNat]

theorem continuation_range {b : UInt8} (h : isContinuation b = true) :
    0x80 ≤ b.toNat ∧ b.toNat ≤ 0xbf := by
  simpa [isContinuation] using h

theorem encodeChar_two {a b : UInt8} (low : 0xc2 ≤ a.toNat) (high : a.toNat ≤ 0xdf)
    (hb : isContinuation b = true) : encodeChar (charOfTwo a b) = [a, b] := by
  have range := continuation_range hb
  obtain ⟨n, hn⟩ : ∃ n, n = (a.toNat - 0xc0) * 64 + (b.toNat - 0x80) := ⟨_, rfl⟩
  have valid : n.isValidChar := .inl (by omega)
  have long : ¬ n < 0x80 := by omega
  have short : n < 0x800 := by omega
  have first : 0xc0 + n / 64 = a.toNat := by omega
  have second : 0x80 + n % 64 = b.toNat := by omega
  simp only [encodeChar, charOfTwo, ← hn, toNat_char valid, long, short, if_true, if_false, first,
    second, UInt8.ofNat_toNat]

/-- The second byte is a continuation, and it keeps off overlong forms and surrogates. -/
theorem startsThree_range {a b : UInt8} (h : startsThree a b = true) :
    0xe0 ≤ a.toNat ∧ a.toNat ≤ 0xef ∧ 0x80 ≤ b.toNat ∧ b.toNat ≤ 0xbf ∧
      (a.toNat = 0xe0 → 0xa0 ≤ b.toNat) ∧ (a.toNat = 0xed → b.toNat ≤ 0x9f) := by
  simp only [startsThree, Bool.or_eq_true, Bool.and_eq_true, decide_eq_true_eq, beq_iff_eq] at h
  omega

theorem encodeChar_three {a b c : UInt8} (h : startsThree a b = true)
    (hc : isContinuation c = true) : encodeChar (charOfThree a b c) = [a, b, c] := by
  obtain ⟨low, high, lowSecond, highSecond, overlong, surrogate⟩ := startsThree_range h
  have range := continuation_range hc
  obtain ⟨n, hn⟩ : ∃ n, n = (a.toNat - 0xe0) * 4096 + (b.toNat - 0x80) * 64 + (c.toNat - 0x80) :=
    ⟨_, rfl⟩
  have valid : n.isValidChar := by
    unfold Nat.isValidChar
    omega
  have long : ¬ n < 0x800 := by omega
  have short : n < 0x10000 := by omega
  have first : 0xe0 + n / 4096 = a.toNat := by omega
  have second : 0x80 + n / 64 % 64 = b.toNat := by omega
  have third : 0x80 + n % 64 = c.toNat := by omega
  have one : ¬ n < 0x80 := by omega
  simp only [encodeChar, charOfThree, ← hn, toNat_char valid, one, long, short, if_true, if_false,
    first, second, third, UInt8.ofNat_toNat]

/-- The second byte is a continuation, and it keeps off overlong forms and what lies above the last
character. -/
theorem startsFour_range {a b : UInt8} (h : startsFour a b = true) :
    0xf0 ≤ a.toNat ∧ a.toNat ≤ 0xf4 ∧ 0x80 ≤ b.toNat ∧ b.toNat ≤ 0xbf ∧
      (a.toNat = 0xf0 → 0x90 ≤ b.toNat) ∧ (a.toNat = 0xf4 → b.toNat ≤ 0x8f) := by
  simp only [startsFour, Bool.or_eq_true, Bool.and_eq_true, decide_eq_true_eq, beq_iff_eq] at h
  omega

theorem encodeChar_four {a b c d : UInt8} (h : startsFour a b = true)
    (hc : isContinuation c = true) (hd : isContinuation d = true) :
    encodeChar (charOfFour a b c d) = [a, b, c, d] := by
  obtain ⟨low, high, lowSecond, highSecond, overlong, last⟩ := startsFour_range h
  have rangeThird := continuation_range hc
  have rangeFourth := continuation_range hd
  obtain ⟨n, hn⟩ : ∃ n, n = (a.toNat - 0xf0) * 262144 + (b.toNat - 0x80) * 4096 +
      (c.toNat - 0x80) * 64 + (d.toNat - 0x80) := ⟨_, rfl⟩
  have valid : n.isValidChar := .inr (by omega)
  have long : ¬ n < 0x10000 := by omega
  have first : 0xf0 + n / 262144 = a.toNat := by omega
  have second : 0x80 + n / 4096 % 64 = b.toNat := by omega
  have third : 0x80 + n / 64 % 64 = c.toNat := by omega
  have fourth : 0x80 + n % 64 = d.toNat := by omega
  have one : ¬ n < 0x80 := by omega
  have two : ¬ n < 0x800 := by omega
  simp only [encodeChar, charOfFour, ← hn, toNat_char valid, one, two, long, if_false, first,
    second, third, fourth, UInt8.ofNat_toNat]

/-! ## Texts -/

theorem encode_cons (c : Char) (cs : List Char) :
    encode (c :: cs) = encodeChar c ++ encode cs := rfl

theorem encode_of_decode? {s : Bytes} {cs : List Char} (h : decode? s = some cs) :
    encode cs = s := by
  -- one case for each way in which the bytes may begin
  fun_induction decode? s generalizing cs with
  | case1 =>
      cases h
      rfl
  | case2 a s ascii ih =>
      obtain ⟨rest, hrest, rfl⟩ := Option.map_eq_some_iff.mp h
      rw [encode_cons, encodeChar_one ascii, ih hrest]
      rfl
  | case4 a _ b s two ih =>
      simp only [Bool.and_eq_true, decide_eq_true_eq] at two
      obtain ⟨rest, hrest, rfl⟩ := Option.map_eq_some_iff.mp h
      rw [encode_cons, encodeChar_two two.1.1 two.1.2 two.2, ih hrest]
      rfl
  | case6 a _ b _ c s three ih =>
      rw [Bool.and_eq_true] at three
      obtain ⟨rest, hrest, rfl⟩ := Option.map_eq_some_iff.mp h
      rw [encode_cons, encodeChar_three three.1 three.2, ih hrest]
      rfl
  | case8 a _ b _ c _ d s four ih =>
      simp only [Bool.and_eq_true] at four
      obtain ⟨rest, hrest, rfl⟩ := Option.map_eq_some_iff.mp h
      rw [encode_cons, encodeChar_four four.1.1 four.1.2 four.2, ih hrest]
      rfl
  | _ => cases h

theorem ofString_of_toString? {b : Bytes} {s : String} (h : toString? b = some s) :
    ofString s = b := by
  obtain ⟨cs, hcs, rfl⟩ := Option.map_eq_some_iff.mp h
  rw [ofString, String.toList_ofList, encode_of_decode? hcs]

/-! ## Forms of a character -/

/-- The bytes are the form, of one to four bytes, in which the character is spelled. -/
inductive Spells : Bytes → Char → Prop where
  | one {a} : a.toNat < 0x80 → Spells [a] (Char.ofNat a.toNat)
  | two {a b} : 0xc2 ≤ a.toNat → a.toNat ≤ 0xdf → isContinuation b = true →
      Spells [a, b] (charOfTwo a b)
  | three {a b c} : startsThree a b = true → isContinuation c = true →
      Spells [a, b, c] (charOfThree a b c)
  | four {a b c d} : startsFour a b = true → isContinuation c = true → isContinuation d = true →
      Spells [a, b, c, d] (charOfFour a b c d)

theorem Spells.wellFormed_append {form s : Bytes} {c : Char} (h : Spells form c)
    (rest : WellFormed s) : WellFormed (form ++ s) := by
  cases h with
  | one ascii => exact .one ascii rest
  | two low high hb => exact .two low high hb rest
  | three first hc => exact .three first hc rest
  | four first hc hd => exact .four first hc hd rest

/-- A form is read as its character, whatever comes after it. -/
theorem Spells.decode?_append {form s : Bytes} {c : Char} (h : Spells form c) :
    decode? (form ++ s) = (decode? s).map (c :: ·) := by
  cases h with
  | one ascii =>
      rw [List.singleton_append, decode?.eq_def]
      simp only [ascii, if_true]
  | @two a b low high hb =>
      have long : ¬ a.toNat < 0x80 := by omega
      rw [List.cons_append, List.singleton_append, decode?.eq_def]
      simp only [long, low, high, hb, decide_true, Bool.and_self, if_true, if_false]
  | @three a b c first hc =>
      have range := startsThree_range first
      have long : ¬ a.toNat < 0x80 := by omega
      have high : ¬ a.toNat ≤ 0xdf := by omega
      rw [List.cons_append, List.cons_append, List.singleton_append, decode?.eq_def]
      simp only [long, high, first, hc, decide_false, Bool.and_false, Bool.false_and,
        Bool.and_self, Bool.false_eq_true, if_true, if_false]
  | @four a b c d first hc hd =>
      have range := startsFour_range first
      have long : ¬ a.toNat < 0x80 := by omega
      have high : ¬ a.toNat ≤ 0xdf := by omega
      -- no first byte begins a form of three bytes and one of four
      have other : startsThree a b = false := by
        rw [Bool.eq_false_iff]
        intro three
        have := startsThree_range three
        omega
      rw [List.cons_append, List.cons_append, List.cons_append, List.singleton_append,
        decode?.eq_def]
      simp only [long, high, other, first, hc, hd, decide_false, Bool.and_false, Bool.false_and,
        Bool.and_self, Bool.false_eq_true, if_true, if_false]

theorem toNat_byte {n : Nat} (h : n < 256) : (UInt8.ofNat n).toNat = n :=
  UInt8.toNat_ofNat_of_lt' h

theorem isContinuation_byte (n : Nat) : isContinuation (UInt8.ofNat (0x80 + n % 64)) = true := by
  have value : (UInt8.ofNat (0x80 + n % 64)).toNat = 0x80 + n % 64 := toNat_byte (by omega)
  simp only [isContinuation, value, Bool.and_eq_true, decide_eq_true_eq]
  omega

theorem spells_one {c : Char} (short : c.toNat < 0x80) : Spells (encodeChar c) c := by
  have first : (UInt8.ofNat c.toNat).toNat = c.toNat := toNat_byte (by omega)
  have form := Spells.one (a := UInt8.ofNat c.toNat) (by omega)
  rw [first, Char.ofNat_toNat] at form
  simpa only [encodeChar, short, if_true] using form

theorem spells_two {c : Char} (long : ¬ c.toNat < 0x80) (short : c.toNat < 0x800) :
    Spells (encodeChar c) c := by
  obtain ⟨n, hn⟩ : ∃ n, n = c.toNat := ⟨_, rfl⟩
  rw [← hn] at long short
  have first : (UInt8.ofNat (0xc0 + n / 64)).toNat = 0xc0 + n / 64 := toNat_byte (by omega)
  have second : (UInt8.ofNat (0x80 + n % 64)).toNat = 0x80 + n % 64 := toNat_byte (by omega)
  have form := Spells.two (a := UInt8.ofNat (0xc0 + n / 64)) (by omega) (by omega)
    (isContinuation_byte n)
  have value : (0xc0 + n / 64 - 0xc0) * 64 + (0x80 + n % 64 - 0x80) = n := by omega
  rw [charOfTwo, first, second, value, hn, Char.ofNat_toNat, ← hn] at form
  simpa only [encodeChar, ← hn, long, short, if_true, if_false] using form

theorem spells_three {c : Char} (long : ¬ c.toNat < 0x800) (short : c.toNat < 0x10000) :
    Spells (encodeChar c) c := by
  have range : c.toNat < 0xd800 ∨ 0xdfff < c.toNat ∧ c.toNat < 0x110000 := c.valid
  obtain ⟨n, hn⟩ : ∃ n, n = c.toNat := ⟨_, rfl⟩
  rw [← hn] at long short range
  have first : (UInt8.ofNat (0xe0 + n / 4096)).toNat = 0xe0 + n / 4096 := toNat_byte (by omega)
  have second : (UInt8.ofNat (0x80 + n / 64 % 64)).toNat = 0x80 + n / 64 % 64 :=
    toNat_byte (by omega)
  have third : (UInt8.ofNat (0x80 + n % 64)).toNat = 0x80 + n % 64 := toNat_byte (by omega)
  have starts : startsThree (UInt8.ofNat (0xe0 + n / 4096)) (UInt8.ofNat (0x80 + n / 64 % 64)) =
      true := by
    simp only [startsThree, first, second, Bool.or_eq_true, Bool.and_eq_true, decide_eq_true_eq,
      beq_iff_eq]
    omega
  have form := Spells.three starts (isContinuation_byte n)
  have value : (0xe0 + n / 4096 - 0xe0) * 4096 + (0x80 + n / 64 % 64 - 0x80) * 64 +
      (0x80 + n % 64 - 0x80) = n := by omega
  have longer : ¬ n < 0x80 := by omega
  rw [charOfThree, first, second, third, value, hn, Char.ofNat_toNat, ← hn] at form
  simpa only [encodeChar, ← hn, longer, long, short, if_true, if_false] using form

theorem spells_four {c : Char} (long : ¬ c.toNat < 0x10000) : Spells (encodeChar c) c := by
  have range : c.toNat < 0xd800 ∨ 0xdfff < c.toNat ∧ c.toNat < 0x110000 := c.valid
  obtain ⟨n, hn⟩ : ∃ n, n = c.toNat := ⟨_, rfl⟩
  rw [← hn] at long range
  have first : (UInt8.ofNat (0xf0 + n / 262144)).toNat = 0xf0 + n / 262144 := toNat_byte (by omega)
  have second : (UInt8.ofNat (0x80 + n / 4096 % 64)).toNat = 0x80 + n / 4096 % 64 :=
    toNat_byte (by omega)
  have third : (UInt8.ofNat (0x80 + n / 64 % 64)).toNat = 0x80 + n / 64 % 64 :=
    toNat_byte (by omega)
  have fourth : (UInt8.ofNat (0x80 + n % 64)).toNat = 0x80 + n % 64 := toNat_byte (by omega)
  have starts : startsFour (UInt8.ofNat (0xf0 + n / 262144)) (UInt8.ofNat (0x80 + n / 4096 % 64)) =
      true := by
    simp only [startsFour, first, second, Bool.or_eq_true, Bool.and_eq_true, decide_eq_true_eq,
      beq_iff_eq]
    omega
  have form := Spells.four starts (isContinuation_byte (n / 64)) (isContinuation_byte n)
  have value : (0xf0 + n / 262144 - 0xf0) * 262144 + (0x80 + n / 4096 % 64 - 0x80) * 4096 +
      (0x80 + n / 64 % 64 - 0x80) * 64 + (0x80 + n % 64 - 0x80) = n := by omega
  have one : ¬ n < 0x80 := by omega
  have two : ¬ n < 0x800 := by omega
  rw [charOfFour, first, second, third, fourth, value, hn, Char.ofNat_toNat, ← hn] at form
  simpa only [encodeChar, ← hn, one, two, long, if_false] using form

/-- A character is written in one of its forms. -/
theorem spells_encodeChar (c : Char) : Spells (encodeChar c) c := by
  by_cases one : c.toNat < 0x80
  · exact spells_one one
  by_cases two : c.toNat < 0x800
  · exact spells_two one two
  by_cases three : c.toNat < 0x10000
  · exact spells_three two three
  · exact spells_four three

/-! ## Well-formed bytes -/

theorem wellFormed_encode (cs : List Char) : WellFormed (encode cs) := by
  induction cs with
  | nil => exact .nil
  | cons c cs ih => exact (spells_encodeChar c).wellFormed_append ih

theorem decode?_encode (cs : List Char) : decode? (encode cs) = some cs := by
  induction cs with
  | nil => rfl
  | cons c cs ih => rw [encode_cons, (spells_encodeChar c).decode?_append, ih, Option.map_some]

theorem decode?_eq_some_iff {s : Bytes} {cs : List Char} : decode? s = some cs ↔ encode cs = s := by
  constructor
  · exact encode_of_decode?
  · rintro rfl
    exact decode?_encode cs

theorem WellFormed.exists_encode {s : Bytes} (h : WellFormed s) : ∃ cs, encode cs = s := by
  have extend {form s : Bytes} {c : Char} (spelled : Spells form c) :
      (∃ cs, encode cs = s) → ∃ cs, encode cs = form ++ s := by
    rintro ⟨cs, rfl⟩
    refine ⟨c :: cs, encode_of_decode? ?_⟩
    rw [spelled.decode?_append, decode?_encode, Option.map_some]
  induction h with
  | nil => exact ⟨[], rfl⟩
  | one ascii _ ih => exact extend (.one ascii) ih
  | two low high hb _ ih => exact extend (.two low high hb) ih
  | three first hc _ ih => exact extend (.three first hc) ih
  | four first hc hd _ ih => exact extend (.four first hc hd) ih

theorem wellFormed_iff_encode {s : Bytes} : WellFormed s ↔ ∃ cs, encode cs = s := by
  constructor
  · exact WellFormed.exists_encode
  · rintro ⟨cs, rfl⟩
    exact wellFormed_encode cs

theorem isSome_toString?_iff {b : Bytes} : (toString? b).isSome = true ↔ WellFormed b := by
  rw [toString?, Option.isSome_map, wellFormed_iff_encode, Option.isSome_iff_exists]
  simp only [decode?_eq_some_iff]

theorem toString?_ofString (s : String) : toString? (ofString s) = some s := by
  rw [toString?, ofString, decode?_encode, Option.map_some, String.ofList_toList]

/-! ## The encoding of strings -/

/-- The forms are those in which strings are stored. -/
theorem encodeChar_eq (c : Char) : encodeChar c = String.utf8EncodeChar c := by
  have range : c.toNat < 0x110000 := by
    have valid : c.toNat < 0xd800 ∨ 0xdfff < c.toNat ∧ c.toNat < 0x110000 := c.valid
    omega
  obtain ⟨n, hn⟩ : ∃ n, n = c.toNat := ⟨_, rfl⟩
  have stored : c.val.toNat = n := hn.symm
  simp only [encodeChar, String.utf8EncodeChar, stored, ← hn]
  rw [← hn] at range
  have last : n % 64 + 128 = 0x80 + n % 64 := Nat.add_comm _ _
  have third : n / 64 % 64 + 128 = 0x80 + n / 64 % 64 := Nat.add_comm _ _
  by_cases one : n < 0x80
  · have one' : n ≤ 127 := by omega
    simp only [one, one', if_true]
  have one' : ¬ n ≤ 127 := by omega
  by_cases two : n < 0x800
  · have two' : n ≤ 2047 := by omega
    have first : n / 64 % 32 + 192 = 0xc0 + n / 64 := by omega
    simp only [one, one', two, two', first, last, if_true, if_false]
  have two' : ¬ n ≤ 2047 := by omega
  by_cases three : n < 0x10000
  · have three' : n ≤ 65535 := by omega
    have first : n / 4096 % 16 + 224 = 0xe0 + n / 4096 := by omega
    simp only [one, one', two, two', three, three', first, third, last, if_true, if_false]
  have three' : ¬ n ≤ 65535 := by omega
  have first : n / 262144 % 8 + 240 = 0xf0 + n / 262144 := by omega
  have second : n / 4096 % 64 + 128 = 0x80 + n / 4096 % 64 := Nat.add_comm _ _
  simp only [one, one', two, two', three, three', first, second, third, last, if_false]

theorem toByteArray_encode (cs : List Char) : (encode cs).toByteArray = cs.utf8Encode := by
  rw [encode, List.utf8Encode]
  exact congrArg (fun f => (cs.flatMap f).toByteArray) (funext encodeChar_eq)

/-- The bytes are well-formed exactly if they are those of a string. -/
theorem wellFormed_iff_isValidUTF8 {s : Bytes} : WellFormed s ↔ s.toByteArray.IsValidUTF8 := by
  rw [wellFormed_iff_encode]
  constructor
  · rintro ⟨cs, rfl⟩
    exact .intro cs (toByteArray_encode cs)
  · rintro ⟨cs, hcs⟩
    refine ⟨cs, ?_⟩
    rw [← toByteArray_encode] at hcs
    have same := congrArg (fun bytes => bytes.data.toList) hcs
    simpa only [List.toList_data_toByteArray] using same.symm
end SecretVault.Utf8
