import SeedStream.Unicode.Category

/-!
# Properties of characters

Alphabetic, Lowercase, Uppercase and Grapheme_Extend follow from the general
category and, for each, a list of further characters.
-/

set_option autoImplicit false

namespace SeedStream.Unicode

def otherAlphabetic : List String :=
  ["n9 u,c g1,d 2 2,1 2,1 2 21,a 1d,c 2,6 h 2u,6 5,3 3,1 5 10 v,f 2v,a 2u,1 4,8 2,2 2,3 2z 1p,b 4",
    ",6 7,j 1j,1 3,e 2,1 6,2 b,1 u,2 1n,6 3,1 3,1 b b,1 u,2 1n,4 5,1 3,1 5 v,1 4 c,2 1n,7 2,2 2,1 ",
    "m,1 n,2 5,2 1n,6 3,1 3,1 a,1 b,1 v 1o,4 4,2 2,2 b 15,4 1m,6 2,2 2,2 9,1 c,1 u,2 1n,6 2,2 2,2 ",
    "9,1 c,1 g d,3 1n,6 2,2 2,2 b b,1 u,2 24,5 2 2,7 j,1 1q 3,6 j 2s 3,5 2,1 h 4k,i a,a 2,z 33,b 2",
    " 3,3 o,3 5,2 2,2 3,6 4,3 e,b 2 b,3 19x,1 v,1 v,1 v,1 1v,i 59,1 z 3b,b 5,8 67,4 1m,9 3,j 23,1 ",
    "c,2 1e,4 1d,e 1p,2 v,8 3,1 1m,a 1f,i bh,x 1c2,1f 1rr,v nsl,7 z,1 9v 9 o,4 2h,1 1f,f 2 1m 13,4",
    " t,b 1a,3 1d,b 12 1w,d d 9,1 1a,2 1f 2,2 3,1 6 19,4 6 6m,7 fn8 1nc,4 1af,2 2,1 6,3 lx,3 1u 8y",
    ",1 28 78,2 1i,d 1a,1 c,2 1a,8 a 1q,2 11,b j,1 1m,2 1d,c f,1 2l,8 3 7 3 4e,9 o,3 1n,6 3,1 3,1 ",
    "b b,1 2d,8 2 3 2,3 2,1 2w,c 2,2 2z,h 6m,6 3,6 u,1 2b,e 2 2z,a 2w,d 76,c 6w,5 2,1 3,1 4 2 3z,6",
    " 3,5 5 t,9 17,4 2,3 j,a 1b,d bc,7 2,6 2c,l 2,d 3f,5 4 2,1 2,2 2 4 1v,4 2,1 2,3 9p,3 a,1 2 1d,",
    "6 4,2 d0e,g 2sh 2,1i 8,3 2m,1 f59 6zm,6 2,g 3,6 2,1 2,4 2t 1q0 1k9,p 7,p 7,p"]

def otherLowercase : List String :=
  ["4q g dy,8 8,1 v,4 2p 1h 2o2 2eo,1q e z,10 j6 e h,c 5w,f nl,p 1hv,1 o4f,1 5v 3m,2 4,1 o3,3 a i",
    "6v 3,2 2,15 2,8 16ra,1p"]

def otherUppercase : List String :=
  ["6lc,f nb,p 2ixt,p 7,p 7,p"]

def otherGraphemeExtend : List String :=
  ["1xa p 9z p 2v p 6h 2 5,1 2,1 a,1 2w p 3c g 1ti v sh 6 2 6,1 2u 20,1 t5 36q,1 nxg 31 gym,1 3kx",
    " 39 7d f a 2p a 3 2,2 6 69 d 6q 7b hm d 16s fxr,1 j90,1 7,5 h41a,2n"]

def inGroup (group : Char) (code : String) : Bool :=
  code.toList.head? == some group

def letters : List (Nat × Nat) := withCategory (inGroup 'L')
def marks : List (Nat × Nat) := withCategory (inGroup 'M')
def decimalDigits : List (Nat × Nat) := withCategory (· == "Nd")

def alphabetic : List (Nat × Nat) :=
  withCategory (fun c => inGroup 'L' c || c == "Nl") ++ decodeRanges (String.join otherAlphabetic)

def lowercase : List (Nat × Nat) :=
  withCategory (· == "Ll") ++ decodeRanges (String.join otherLowercase)

def uppercase : List (Nat × Nat) :=
  withCategory (· == "Lu") ++ decodeRanges (String.join otherUppercase)

def graphemeExtend : List (Nat × Nat) :=
  withCategory (fun c => c == "Mn" || c == "Me") ++ decodeRanges (String.join otherGraphemeExtend)

def whiteSpace : List (Nat × Nat) :=
  [(9, 13), (0x20, 0x20), (0x85, 0x85), (0xa0, 0xa0), (0x1680, 0x1680), (0x2000, 0x200a),
    (0x2028, 0x2029), (0x202f, 0x202f), (0x205f, 0x205f), (0x3000, 0x3000)]

def word : List (Nat × Nat) :=
  alphabetic ++ marks ++ decimalDigits ++ withCategory (· == "Pc") ++ [(0x200c, 0x200d)]

end SeedStream.Unicode
