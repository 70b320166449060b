import SeedStream.Unicode.Property

/-!
# Characters of a later version

Patterns know the characters of Unicode version 16.0. Whether a character can be
printed or stands in a name is judged by version 17.0, which assigned some more.
-/

set_option autoImplicit false

namespace SeedStream.Unicode.Later

def printable : String :=
  "1ov r1 3k 2r7,e 3,b 15i 251 ojc,1 3 2 t gk2,f ce,1 1j,6 29e,p 12k,2 9,8 y,1 2g5,7 g9,17 5,9 " ++
    "fxz,o 3,o 7z,4 4qq,7 zu,l 2q,36 cg8,2 ce,m g,g 4pc,u 2,l 9,1 34p 4f,3 9i,8 ak,3 1f 4 1m 5 " ++
    "t 5 7f 10zk,5 4mb,b gsj,3bd"

def alphabetic : String :=
  "1ov r1 3k ulu,1 3 2 t j7z,p 12k,2 1f,1 2g5,7 g9,17 fyd,o 3,o 7z,4 4qq,7 zu,l 2q,36 hji,u " ++
    "2,l 9,1 154r,5 4mb,b gsj,3bd"

def numbers : List (Nat × Nat) := [(0x11de0, 0x11de9), (0x16ff4, 0x16ff6)]

def graphemeExtend : List (Nat × Nat) :=
  [(0x1acf, 0x1add), (0x1ae0, 0x1aeb), (0x10efa, 0x10efb), (0x11b60, 0x11b60), (0x11b62, 0x11b64),
    (0x11b66, 0x11b66), (0x1e6e3, 0x1e6e3), (0x1e6e6, 0x1e6e6), (0x1e6ee, 0x1e6ef),
    (0x1e6f5, 0x1e6f5)]

/-- Marks of voiced sounds, which extend a character no longer. -/
def voicingMarks : Nat × Nat := (0xff9e, 0xff9f)

def within (ranges : List (Nat × Nat)) (n : Nat) : Bool :=
  ranges.any fun (a, b) => a ≤ n && n ≤ b

/-- Whether a character has a shape of its own: no control, no unassigned code
point, no separator except the blank. -/
def isPrintable (c : Char) : Bool :=
  let code := category c.toNat
  c == ' ' || !(inGroup 'C' code || inGroup 'Z' code) ||
    (code == "Cn" && within (decodeRanges printable) c.toNat)

def isGraphemeExtend (c : Char) : Bool :=
  let code := category c.toNat
  code == "Mn" || code == "Me" || within graphemeExtend c.toNat ||
    (within (decodeRanges (String.join otherGraphemeExtend)) c.toNat &&
      !within [voicingMarks] c.toNat)

def isAlphabetic (c : Char) : Bool :=
  let code := category c.toNat
  inGroup 'L' code || code == "Nl" ||
    within (decodeRanges (String.join otherAlphabetic)) c.toNat ||
    (code == "Cn" && within (decodeRanges alphabetic) c.toNat)

def isNumeric (c : Char) : Bool :=
  inGroup 'N' (category c.toNat) || within numbers c.toNat

end SeedStream.Unicode.Later
