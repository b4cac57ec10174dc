/-
# ShardStore.Url.Characters -- the characters of host names

A host name holds no controls, no blanks and few ASCII signs.  Beyond ASCII a character
may count as nothing, stand for others, or not be allowed at all; not allowed is in
general what does not print.  Some places of the standard that are still empty are kept
for letters and signs to come, and a name may hold them already.
-/
import ShardStore.Text.Category
import ShardStore.Url.Folding

namespace ShardStore.Url

set_option autoImplicit false

open Text (inRanges)

/-! ## Plain characters -/

/-- Characters that count as nothing. -/
def ignoredRanges : List (Nat × Nat) :=
  [(0xAD, 0xAD), (0x34F, 0x34F), (0x115F, 0x1160), (0x17B4, 0x17B5), (0x180B, 0x180F),
   (0x200B, 0x200B), (0x2060, 0x2064), (0x206A, 0x206F), (0x3164, 0x3164), (0xFE00, 0xFE0F),
   (0xFEFF, 0xFEFF), (0xFFA0, 0xFFA0), (0x1BCA0, 0x1BCA3), (0x1D173, 0x1D17A), (0xE0100, 0xE01EF)]

def isIgnored (c : Char) : Bool := inRanges ignoredRanges c.toNat

/-- What a character is in the plain form of a name. -/
def plain (c : Char) : List Char :=
  if c.toNat < 0x80 then [c.toLower]
  else if isIgnored c then []
  else (folded? c).getD [c]

/-! ## Places kept -/

/-- Places kept for nonspacing marks. -/
def keptMarkRanges : List (Nat × Nat) :=
  [(0x5C8, 0x5CF), (0x1ADE, 0x1ADF), (0x1AEC, 0x1AFF), (0x20F1, 0x20FF)]

/-- Places kept for other letters and signs. -/
def keptRanges : List (Nat × Nat) :=
  [(0x530, 0x530), (0x557, 0x558), (0x58B, 0x58C), (0x1C8B, 0x1C8F), (0x209D, 0x209F),
   (0x20C2, 0x20CF), (0x218C, 0x218F), (0x242A, 0x243F), (0x244B, 0x245F), (0x2B74, 0x2B75),
   (0x2E5E, 0x2E7F), (0xA7DD, 0xA7F0), (0xAB6C, 0xAB6F), (0x107BB, 0x107BF), (0x10EC8, 0x10ECF),
   (0x10ED9, 0x10EF9), (0x12550, 0x1268F), (0x16D80, 0x16DAF), (0x18DF3, 0x193FF),
   (0x1CCFD, 0x1CCFF), (0x1CEB4, 0x1CEB9), (0x1CED1, 0x1CEDF), (0x1CEF1, 0x1CEFF),
   (0x1D246, 0x1D28F), (0x1DF1F, 0x1DF24), (0x1DF2B, 0x1DFFF), (0x1F02C, 0x1F02F),
   (0x1F094, 0x1F09F), (0x1F0F6, 0x1F0FF), (0x1F1AE, 0x1F1E5), (0x1F6D9, 0x1F6DB),
   (0x1F6ED, 0x1F6EF), (0x1F6FD, 0x1F6FF), (0x1F7DA, 0x1F7DF), (0x1F7EC, 0x1F7EF),
   (0x1F7F1, 0x1F7FF), (0x1F8D9, 0x1F8FF), (0x1FA58, 0x1FA5F), (0x1FA7D, 0x1FA7F),
   (0x1FA8B, 0x1FA8D), (0x1FAC7, 0x1FAC7), (0x1FAC9, 0x1FACC), (0x1FADD, 0x1FADE),
   (0x1FAEB, 0x1FAEE), (0x1FAF9, 0x1FAFF), (0x1FBFB, 0x1FBFF), (0x2A6E0, 0x2A6FF),
   (0x2B81E, 0x2B81F), (0x2CEAE, 0x2CEAF), (0x2EBE1, 0x2EBEF), (0x2EE5E, 0x2EE5F),
   (0x3134B, 0x3134F), (0x3347A, 0x3347F), (0x3D000, 0x3FC3F)]

def isKept (c : Char) : Bool := inRanges keptMarkRanges c.toNat || inRanges keptRanges c.toNat

def isNonspacing (c : Char) : Bool := Text.isNonspacing c || inRanges keptMarkRanges c.toNat

def isMark (c : Char) : Bool := Text.isMark c || inRanges keptMarkRanges c.toNat

/-! ## What is allowed -/

/-- The ASCII characters that no name holds. -/
def isForbidden (c : Char) : Bool :=
  c.toNat ≤ 0x20 || c.toNat = 0x7F || c ∈ ['#', '%', '/', ':', '<', '>', '?', '@', '[', '\\',
    ']', '^', '|']

/-- Characters that print and are not allowed: signs whose form holds a dot or another
sign that is not, signs that describe others, and what stands for no character. -/
def refusedRanges : List (Nat × Nat) :=
  [(0x2024, 0x2026), (0x2488, 0x249B), (0x2FF0, 0x2FFF), (0x31EF, 0x31EF), (0x33C2, 0x33C2),
   (0x33C7, 0x33C7), (0x33D8, 0x33D8), (0xFE12, 0xFE12), (0xFE19, 0xFE19), (0xFE30, 0xFE30),
   (0xFE52, 0xFE52), (0xFFFC, 0xFFFD), (0x1F100, 0x1F100)]

def nonJoiner : Char := '\u200c'

def isJoiner (c : Char) : Bool := c = nonJoiner || c = '\u200d'

/-- Is a character of the plain form allowed? -/
def isAllowed (c : Char) : Bool :=
  if c.toNat < 0x80 then !isForbidden c
  else !inRanges refusedRanges c.toNat && (!Text.isUnprintable c || isJoiner c || isKept c)

end ShardStore.Url
