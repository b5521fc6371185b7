import Mathlib.Algebra.Group.Nat.Defs
import Mathlib.Tactic.Common

namespace Text

/-- Letters `A`-`Z` are folded, every other character is kept. -/
def foldAscii (text : String) : List Char := text.toList.map Char.toLower

def eqIgnoreAsciiCase (left right : String) : Bool := foldAscii left == foldAscii right

/-- The Unicode `White_Space` property. -/
def isWhitespace (c : Char) : Bool :=
  let code := c.toNat
  (9 ≤ code && code ≤ 13) || code == 0x20 || code == 0x85 || code == 0xA0 || code == 0x1680 ||
    (0x2000 ≤ code && code ≤ 0x200A) || code == 0x2028 || code == 0x2029 || code == 0x202F ||
    code == 0x205F || code == 0x3000

def isBlank (text : String) : Bool := text.toList.all isWhitespace

/-- Removes characters from both ends. -/
def trimMatches (remove : Char → Bool) (text : List Char) : List Char :=
  (((text.dropWhile remove).reverse).dropWhile remove).reverse

def trim (text : List Char) : List Char := trimMatches isWhitespace text

/-- The stretches between whitespace. -/
def splitWhitespace (text : List Char) : List (List Char) :=
  (text.splitOnP isWhitespace).filter (!·.isEmpty)

def hexDigit (n : Nat) : Char := if n < 10 then Char.ofNat (48 + n) else Char.ofNat (87 + n)

/-- Two lowercase digits a byte. -/
def hex (bytes : List UInt8) : List Char :=
  bytes.flatMap fun byte => [hexDigit (byte.toNat / 16), hexDigit (byte.toNat % 16)]

def isAsciiAlphanumeric (c : Char) : Bool :=
  ('a' ≤ c && c ≤ 'z') || ('A' ≤ c && c ≤ 'Z') || ('0' ≤ c && c ≤ '9')

/-- The Unicode category of control characters. -/
def isControl (c : Char) : Bool := c.toNat < 0x20 || (0x7F ≤ c.toNat && c.toNat ≤ 0x9F)

def toDigit (radix : Nat) (c : Char) : Option Nat :=
  let digit :=
    if '0' ≤ c && c ≤ '9' then c.toNat - 48
    else if 'a' ≤ c && c ≤ 'z' then c.toNat - 87
    else if 'A' ≤ c && c ≤ 'Z' then c.toNat - 55
    else radix
  if digit < radix then some digit else none

/-- Reads a number of 32 bits; a plus sign may stand in front of it. -/
def fromStrRadix (radix : Nat) (text : List Char) : Option Nat :=
  let digits := match text with
    | '+' :: rest => rest
    | _ => text
  if digits.isEmpty then none
  else digits.foldlM (fun value c => do
    let digit ← toDigit radix c
    if value * radix + digit < 2 ^ 32 then some (value * radix + digit) else none) 0

theorem eqIgnoreAsciiCase_iff {left right : String} :
    eqIgnoreAsciiCase left right = true ↔ foldAscii left = foldAscii right :=
  beq_iff_eq

@[simp] theorem eqIgnoreAsciiCase_refl (text : String) : eqIgnoreAsciiCase text text = true :=
  eqIgnoreAsciiCase_iff.mpr rfl

theorem eqIgnoreAsciiCase_comm (left right : String) :
    eqIgnoreAsciiCase left right = eqIgnoreAsciiCase right left :=
  BEq.comm

theorem eqIgnoreAsciiCase_trans {left middle right : String}
    (h₁ : eqIgnoreAsciiCase left middle = true) (h₂ : eqIgnoreAsciiCase middle right = true) :
    eqIgnoreAsciiCase left right = true := by
  rw [eqIgnoreAsciiCase_iff] at *
  exact h₁.trans h₂

theorem hexDigit_injective (h : hexDigit n = hexDigit m) (hn : n < 16) (hm : m < 16) : n = m := by
  have hall : ∀ a < 16, ∀ b < 16, hexDigit a = hexDigit b → a = b := by decide
  exact hall n hn m hm h

theorem length_hex (bytes : List UInt8) : (hex bytes).length = 2 * bytes.length := by
  induction bytes with
  | nil => rfl
  | cons byte rest ih =>
    have hcons : (hex (byte :: rest)).length = (hex rest).length + 2 := rfl
    rw [hcons, ih, List.length_cons]
    omega

theorem isAsciiAlphanumeric_hexDigit (h : n < 16) : isAsciiAlphanumeric (hexDigit n) = true := by
  have hall : ∀ a < 16, isAsciiAlphanumeric (hexDigit a) = true := by decide
  exact hall n h

theorem isAsciiAlphanumeric_of_mem_hex {bytes : List UInt8} (h : c ∈ hex bytes) :
    isAsciiAlphanumeric c = true := by
  obtain ⟨byte, _, hdigit⟩ := List.mem_flatMap.mp h
  have hbyte := byte.toNat_lt
  rcases List.mem_cons.mp hdigit with rfl | hlow
  · exact isAsciiAlphanumeric_hexDigit (by omega)
  · rw [List.mem_singleton.mp hlow]
    exact isAsciiAlphanumeric_hexDigit (by omega)

theorem hex_injective {left right : List UInt8} (h : hex left = hex right) : left = right := by
  induction left generalizing right with
  | nil =>
    cases right with
    | nil => rfl
    | cons byte rest => cases h
  | cons byte rest ih =>
    cases right with
    | nil => cases h
    | cons other rest' =>
      simp only [hex, List.flatMap_cons, List.cons_append, List.nil_append, List.cons.injEq] at h
      obtain ⟨hhigh, hlow, hrest⟩ := h
      have hbyte := byte.toNat_lt
      have hother := other.toNat_lt
      have hquot := hexDigit_injective hhigh (by omega) (by omega)
      have hrem := hexDigit_injective hlow (by omega) (by omega)
      have heq : byte.toNat = other.toNat := by omega
      rw [UInt8.toNat.inj heq, ih hrest]

end Text
