import SecretVault.Text.Utf8

/-!
Texts as code points. Not every text is a string: a surrogate, which is half of a pair, is a code
point that stands for no character. The host knows its names as bytes. There a surrogate from U+DC80
to U+DCFF stands for one byte that is not UTF-8, and a text with any other surrogate has no bytes.
-/

namespace SecretVault

/-- A character or a surrogate. -/
abbrev CodePoint := Fin 0x110000

abbrev CodePoints := List CodePoint

namespace CodePoint

def ofChar (c : Char) : CodePoint :=
  ⟨c.toNat, by rcases c.valid with h | h <;> simp only [Char.toNat] <;> omega⟩

def nul : CodePoint :=
  ofChar '\x00'

def isSurrogate (p : CodePoint) : Bool :=
  decide (0xd800 ≤ p.val ∧ p.val < 0xe000)

def char? (p : CodePoint) : Option Char :=
  if p.isSurrogate then none else some (Char.ofNat p.val)

/-- The bytes by which the host knows the code point. -/
def encode? (p : CodePoint) : Option Bytes :=
  match p.char? with
  | some c => some (Utf8.encodeChar c)
  | none =>
    if 0xdc80 ≤ p.val ∧ p.val ≤ 0xdcff then some [UInt8.ofNat (p.val - 0xdc00)] else none

/-- No character is a surrogate. -/
theorem isSurrogate_ofChar (c : Char) : (ofChar c).isSurrogate = false := by
  have outside : c.toNat < 0xd800 ∨ 0xdfff < c.toNat := c.valid.imp_right And.left
  exact decide_eq_false (by simp only [ofChar]; omega)

@[simp] theorem char?_ofChar (c : Char) : (ofChar c).char? = some c := by
  rw [char?, isSurrogate_ofChar]
  exact congrArg some (Char.ofNat_toNat c)

@[simp] theorem encode?_ofChar (c : Char) : (ofChar c).encode? = some (Utf8.encodeChar c) := by
  simp [encode?]

theorem isSome_encode?_iff {p : CodePoint} :
    p.encode?.isSome = true ↔ (p.isSurrogate = true → 0xdc80 ≤ p.val ∧ p.val ≤ 0xdcff) := by
  cases surrogate : p.isSurrogate with
  | false => simp [encode?, char?, surrogate]
  | true => by_cases escape : 0xdc80 ≤ p.val ∧ p.val ≤ 0xdcff <;>
      simp [encode?, char?, surrogate, escape]

theorem ofChar_injective {c d : Char} (h : ofChar c = ofChar d) : c = d := by
  have same := congrArg char? h
  simpa using same

end CodePoint

namespace CodePoints

def ofString (s : String) : CodePoints :=
  s.toList.map .ofChar

instance : Coe String CodePoints where
  coe := ofString

/-- The string that the text is, if no surrogate is in it. -/
def toString? (t : CodePoints) : Option String :=
  (t.mapM CodePoint.char?).map String.ofList

/-- The text as characters, each surrogate shown by a replacement character. -/
def shown (t : CodePoints) : List Char :=
  t.map fun p => p.char?.getD '\ufffd'

/-- The bytes by which the host knows the text. -/
def encode? (t : CodePoints) : Option Bytes :=
  (t.mapM CodePoint.encode?).map List.flatten

def isEncodable (t : CodePoints) : Bool :=
  t.encode?.isSome

@[simp] theorem ofString_inj {s t : String} : ofString s = ofString t ↔ s = t := by
  constructor
  · intro h
    exact String.toList_inj.mp (List.map_inj_right (fun _ _ => CodePoint.ofChar_injective) |>.mp h)
  · rintro rfl
    rfl

@[simp] theorem ofString_eq_nil {s : String} : ofString s = [] ↔ s = "" := by
  simp [ofString]

@[simp] theorem ofString_append (s t : String) : ofString (s ++ t) = ofString s ++ ofString t := by
  simp [ofString]

theorem mapM_ofChar {α : Type} {f : CodePoint → Option α} {g : Char → α}
    (each : ∀ c, f (.ofChar c) = some (g c)) (cs : List Char) :
    (cs.map CodePoint.ofChar).mapM f = some (cs.map g) := by
  induction cs with
  | nil => rfl
  | cons c cs ih => simp [each, ih]

@[simp] theorem toString?_ofString (s : String) : toString? s = some s := by
  simp [toString?, ofString, mapM_ofChar CodePoint.char?_ofChar]

@[simp] theorem shown_ofString (s : String) : shown s = s.toList := by
  simp [shown, ofString, Function.comp_def]

@[simp] theorem encode?_ofString (s : String) : encode? s = some (Utf8.ofString s) := by
  simp [encode?, ofString, mapM_ofChar CodePoint.encode?_ofChar, Utf8.ofString, Utf8.encode,
    List.flatMap_def]

/-- A text has bytes unless some surrogate in it stands for no byte. -/
theorem isEncodable_iff {t : CodePoints} : t.isEncodable = true ↔
    ∀ p ∈ t, p.isSurrogate = true → 0xdc80 ≤ p.val ∧ p.val ≤ 0xdcff := by
  simp only [← CodePoint.isSome_encode?_iff, isEncodable, encode?, Option.isSome_map]
  induction t with
  | nil => simp
  | cons p t ih =>
    rw [List.mapM_cons, List.forall_mem_cons, ← ih]
    cases p.encode? <;> cases List.mapM CodePoint.encode? t <;> simp

@[simp] theorem isEncodable_ofString (s : String) : isEncodable s = true := by
  simp [isEncodable]

example : encode? [0x41, 0xdcff] = some [0x41, 0xff] ∧ encode? [0xd800] = none := by decide

end CodePoints

end SecretVault
