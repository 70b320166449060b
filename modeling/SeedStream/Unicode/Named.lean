import SeedStream.Unicode.Property

/-!
# Properties by name

Further properties that a character has or has not, known by their names in
loose form. Most are lists of ranges, Unicode version 16.0; the rest follow
from the general category and a few single characters.
-/

set_option autoImplicit false

namespace SeedStream.Unicode

/-- The names of a property, and its ranges by their distances. -/
def listedProperties : List (List String × List String) :=
  [(["bidicontrol", "bidic"], ["17g 54i,1 r,4 1k,3"]),
    (["bidimirrored", "bidim"],
      ["14,1 j 2 t 2 u 2 1a g 2v3,3 1ge,1 1wd,1 b,1 1j,1 f,1 4y 5d,3 4,5 4 4,1 4,3 2,3 2 2 5,8 6 2",
       ",h 6,3 a,1 2 2,7 2,v 3,3 6 a,1 3,i 6,1 a,4 3,1 5,n 3,f 9,3 l,1 8,1 u6,d 23 3,3 2,1 2,2 6,3",
       " 6,2 4,d b8,l 3,5 2,d 9 8,5 4 5,4 2,1 3,4 5 2,2 3,1 b,5 3,1 d,i 2,3 3 2 3 2,3 6,1 7,2 p,1 ",
       "c,1 5,3 2,1 3,1 5,16 3,7 2,13 6 2 4,4 6,2 5 4,4 2 75 ec,3 4,1 2,1 f,1 3,9 18,7 bw,9 3,7 14",
       "qm,5 6,1 4j,1 j 2 t 2 u 2 2,1 2,1 16k8 1m 1m 1m 1m"]),
    (["changeswhencasefolded", "cwcf"],
      ["1t,p 2j b,m 2,7 x 2 2 2 2 2 2 2 2 2 2 2 2 2 2 2 2 2 2 2 2 2 2 2 2 2 2 2 3 2 2 2 2 2 2 2 2,",
       "1 2 2 2 2 2 2 2 2 2 2 2 2 2 2 2 2 2 2 2 2 2 2 2,1 2 2 2 2,1 2 2,1 2,2 3,3 2,1 2,2 4,1 2,1 ",
       "2 2 2,1 2 3 2,1 2,2 2 2,1 4 8,1 2,1 2,1 2 2 2 2 2 2 2 2 3 2 2 2 2 2 2 2 2 3,1 2 2,2 2 2 2 ",
       "2 2 2 2 2 2 2 2 2 2 2 2 2 2 2 2 2 2 2 2 2 2 2 2 2 2 8,1 2,1 3 2,3 2 2 2 2 6v 17 2 4 9 7 2,",
       "2 2 2,1 2,g 2,8 n d,2 4,1 2 2 2 2 2 2 2 2 2 2 2 2 2,1 3,1 2 2,1 3,1e 1d 2 2 2 2 2 2 2 2 2 ",
       "2 2 2 2 2 2 2 a 2 2 2 2 2 2 2 2 2 2 2 2 2 2 2 2 2 2 2 2 2 2 2 2 2 2 2,1 2 2 2 2 2 2 3 2 2 ",
       "2 2 2 2 2 2 2 2 2 2 2 2 2 2 2 2 2 2 2 2 2 2 2 2 2 2 2 2 2 2 2 2 2 2 2 2 2 2 2 2 2 2 2 2 2 ",
       "3,11 1d 26x,11 2 6 mj,5 1oj,9 7,16 3,2 8x 2 2 2 2 2 2 2 2 2 2 2 2 2 2 2 2 2 2 2 2 2 2 2 2 ",
       "2 2 2 2 2 2 2 2 2 2 2 2 2 2 2 2 2 2 2 2 2 2 2 2 2 2 2 2 2 2 2 2 2 2 2 2 2 2 2 2 2 2 2 2 2 ",
       "2 2 2 2 2 6,1 3 2 2 2 2 2 2 2 2 2 2 2 2 2 2 2 2 2 2 2 2 2 2 2 2 2 2 2 2 2 2 2 2 2 2 2 2 2 ",
       "2 2 2 2 2 2 2 2 2 2 2 a,7 9,5 b,7 9,7 9,5 c 2 2 2 9,7 h,1b 3,2 3,5 6,2 3,5 c,3 d,4 6,2 3,5",
       " 8a 4,1 7 1a,f k mr,p 1f5,1b 1d 2,2 3 2 2 2,3 2 3 9,2 2 2 2 2 2 2 2 2 2 2 2 2 2 2 2 2 2 2 ",
       "2 2 2 2 2 2 2 2 2 2 2 2 2 2 2 2 2 2 2 2 2 2 2 2 2 2 2 2 2 2 2 9 2 5 nym 2 2 2 2 2 2 2 2 2 ",
       "2 2 2 2 2 2 2 2 2 2 2 2 2 k 2 2 2 2 2 2 2 2 2 2 2 2 2 3s 2 2 2 2 2 2 4 2 2 2 2 2 2 2 2 2 2",
       " 2 2 2 2 2 2 2 2 2 2 2 2 2 2 2 2 2 2 2 2 b 2 2,1 2 2 2 2 5 2 3 2 4 2 2 2 2 2 2 2 2 2 2,4 2",
       ",4 2 2 2 2 2 2 2 2,3 2 2,1 4 6 2 2 2 p or,27 fnl,6 d,4 sq,p xy,13 3t,z 4d,a 2,e 2,6 2,1 1d",
       "7,1e 4e,l 27v,v gw1,v o81,x"]),
    (["changeswhencasemapped", "cwcm"],
      ["1t,p 7,p 1n b,m 2,u 2,1r 2,2b 2,r 3,d 3,1 2 5,2k 2,h 7,q 2,1 2 2,1 4,1 2,3 2,4 3 2,1 3 8 3",
       " 2,1 4,5 6 b,1 4n 17,3 3,1 4,2 2 7 2,2 2 2,j 2,1a 4,w 2,4 2,3o 9,4l 2,11 b,12 26x,11 2 6 3",
       ",16 3,2 ip,2d 3,5 1oj,a 6,16 3,2 56 4 h 36,4b 3 2,39 3,5 3,11 3,5 3,7 2 2 2 2,u 3,1g 2,6 2",
       " 4,2 2,6 4,3 3,5 5,c 6,2 2,6 8a 4,1 7 s i,v 4,1 mq,1f 1ef,34 2,1 2,1 8,2t 8,3 4,1 d,11 2 6",
       " nwz,19 j,r 3r,d 3,1p a,e 4,2 3,4 2,o 2,t 3,1 5,6 p,1 nx t,27 fnl,6 d,4 sq,p 7,p x2,27 2p,",
       "z 5,z 39,a 2,e 2,6 2,1 2,a 2,e 2,6 2,1 1c4,1e e,1e 2m,l b,l 26z,1r gv5,1r o75,1v"]),
    (["changeswhenlowercased", "cwl"],
      ["1t,p 2u,m 2,6 y 2 2 2 2 2 2 2 2 2 2 2 2 2 2 2 2 2 2 2 2 2 2 2 2 2 2 2 3 2 2 2 2 2 2 2 3 2 ",
       "2 2 2 2 2 2 2 2 2 2 2 2 2 2 2 2 2 2 2 2 2 2,1 2 2 4,1 2 2,1 2,2 3,3 2,1 2,2 4,1 2,1 2 2 2,",
       "1 2 3 2,1 2,2 2 2,1 4 8,1 2,1 2,1 2 2 2 2 2 2 2 2 3 2 2 2 2 2 2 2 2 3,1 2 2,2 2 2 2 2 2 2 ",
       "2 2 2 2 2 2 2 2 2 2 2 2 2 2 2 2 2 2 2 2 2 2 2 8,1 2,1 3 2,3 2 2 2 2 82 2 4 9 7 2,2 2 2,1 2",
       ",g 2,8 10 9 2 2 2 2 2 2 2 2 2 2 2 6 3 2,1 3,1e 1d 2 2 2 2 2 2 2 2 2 2 2 2 2 2 2 2 a 2 2 2 ",
       "2 2 2 2 2 2 2 2 2 2 2 2 2 2 2 2 2 2 2 2 2 2 2 2,1 2 2 2 2 2 2 3 2 2 2 2 2 2 2 2 2 2 2 2 2 ",
       "2 2 2 2 2 2 2 2 2 2 2 2 2 2 2 2 2 2 2 2 2 2 2 2 2 2 2 2 2 2 2 2 2 2 3,11 28a,11 2 6 k3,2d ",
       "1p0 7,16 3,2 8x 2 2 2 2 2 2 2 2 2 2 2 2 2 2 2 2 2 2 2 2 2 2 2 2 2 2 2 2 2 2 2 2 2 2 2 2 2 ",
       "2 2 2 2 2 2 2 2 2 2 2 2 2 2 2 2 2 2 2 2 2 2 2 2 2 2 2 2 2 2 2 2 2 2 2 2 2 a 2 2 2 2 2 2 2 ",
       "2 2 2 2 2 2 2 2 2 2 2 2 2 2 2 2 2 2 2 2 2 2 2 2 2 2 2 2 2 2 2 2 2 2 2 2 2 2 2 2 2 a,7 9,5 ",
       "b,7 9,7 9,5 c 2 2 2 9,7 p,7 9,7 9,7 9,4 c,4 c,3 d,4 c,4 8a 4,1 7 1a,f k mr,p 1f5,1b 1d 2,2",
       " 3 2 2 2,3 2 3 9,2 2 2 2 2 2 2 2 2 2 2 2 2 2 2 2 2 2 2 2 2 2 2 2 2 2 2 2 2 2 2 2 2 2 2 2 2",
       " 2 2 2 2 2 2 2 2 2 2 2 2 2 9 2 5 nym 2 2 2 2 2 2 2 2 2 2 2 2 2 2 2 2 2 2 2 2 2 2 k 2 2 2 2",
       " 2 2 2 2 2 2 2 2 2 3s 2 2 2 2 2 2 4 2 2 2 2 2 2 2 2 2 2 2 2 2 2 2 2 2 2 2 2 2 2 2 2 2 2 2 ",
       "2 2 2 b 2 2,1 2 2 2 2 5 2 3 2 4 2 2 2 2 2 2 2 2 2 2,4 2,4 2 2 2 2 2 2 2 2,3 2 2,1 4 6 2 2 ",
       "2 p h7w,p xy,13 3t,z 4d,a 2,e 2,6 2,1 1d7,1e 4e,l 27v,v gw1,v o81,x"]),
    (["changeswhentitlecased", "cwt"],
      ["2p,p 1n 16,n 2,7 2 2 2 2 2 2 2 2 2 2 2 2 2 2 2 2 2 2 2 2 2 2 2 2 2 2 2 2 3 2 2 2 2 2 2 2,1",
       " 2 2 2 2 2 2 2 2 2 2 2 2 2 2 2 2 2 2 2 2 2 2 2 3 2 2,2 3 2 3 4 6 3 4,2 3 3 2 2 3 5 3 4 2 3",
       " 4 2 5 2,1 2,1 2 2 2 2 2 2 2 2 2,1 2 2 2 2 2 2 2 2 2,2 2 2 4 2 2 2 2 2 2 2 2 2 2 2 2 2 2 2",
       " 2 2 2 2 4 2 2 2 2 2 2 2 2 9 3,1 2 5 2 2 2 2,5 2,1 2 2,1 4,1 2,3 2,4 3 2,1 3 8 3 2,1 4,5 6",
       " b,1 4n 18 2 4 4,2 j s,y 2,1 4,2 2 2 2 2 2 2 2 2 2 2 2 2,4 2 3 3 1h,1b 2 2 2 2 2 2 2 2 2 2",
       " 2 2 2 2 2 2 2 a 2 2 2 2 2 2 2 2 2 2 2 2 2 2 2 2 2 2 2 2 2 2 2 2 2 2 3 2 2 2 2 2 2,1 2 2 2",
       " 2 2 2 2 2 2 2 2 2 2 2 2 2 2 2 2 2 2 2 2 2 2 2 2 2 2 2 2 2 2 2 2 2 2 2 2 2 2 2 2 2 2 2 2 2",
       " 1e,12 2up,5 1oj,8 2 6n 4 h 37 2 2 2 2 2 2 2 2 2 2 2 2 2 2 2 2 2 2 2 2 2 2 2 2 2 2 2 2 2 2",
       " 2 2 2 2 2 2 2 2 2 2 2 2 2 2 2 2 2 2 2 2 2 2 2 2 2 2 2 2 2 2 2 2 2 2 2 2 2 2 2 2 2 2 2 2,6",
       " 6 2 2 2 2 2 2 2 2 2 2 2 2 2 2 2 2 2 2 2 2 2 2 2 2 2 2 2 2 2 2 2 2 2 2 2 2 2 2 2 2 2 2 2 2",
       " 2 2 2,8 9,5 b,7 9,7 9,5 b,7 9,7 9,d 3,7 9,7 9,7 9,4 2,1 7 4,2 2,1 9,3 3,1 9,7 b,2 2,1 9j ",
       "y,f 5 ng,p 1fr,1b 2 4,1 2 2 2 7 3 b 2 2 2 2 2 2 2 2 2 2 2 2 2 2 2 2 2 2 2 2 2 2 2 2 2 2 2 ",
       "2 2 2 2 2 2 2 2 2 2 2 2 2 2 2 2 2 2 2 2 2 2 9 2 5 d,11 2 6 nx0 2 2 2 2 2 2 2 2 2 2 2 2 2 2",
       " 2 2 2 2 2 2 2 2 k 2 2 2 2 2 2 2 2 2 2 2 2 2 3s 2 2 2 2 2 2 4 2 2 2 2 2 2 2 2 2 2 2 2 2 2 ",
       "2 2 2 2 2 2 2 2 2 2 2 2 2 2 2 2 b 2 3 2 2 2 2 5 5 2,1 3 2 2 2 2 2 2 2 2 2 c 2 2 2 2 2 2 2 ",
       "5 2 3 4 6 2 2 r nx t,27 fnl,6 d,4 tm,p y6,13 3t,z 4c,a 2,e 2,6 2,1 1dw,1e 3i,l 27v,v gw1,v",
       " o83,x"]),
    (["changeswhenuppercased", "cwu"],
      ["2p,p 1n 16,n 2,7 2 2 2 2 2 2 2 2 2 2 2 2 2 2 2 2 2 2 2 2 2 2 2 2 2 2 2 2 3 2 2 2 2 2 2 2,1",
       " 2 2 2 2 2 2 2 2 2 2 2 2 2 2 2 2 2 2 2 2 2 2 2 3 2 2,2 3 2 3 4 6 3 4,2 3 3 2 2 3 5 3 4 2 3",
       " 4 2 6,1 2,1 2,1 2 2 2 2 2 2 2 2,1 2 2 2 2 2 2 2 2 2,1 2,1 2 4 2 2 2 2 2 2 2 2 2 2 2 2 2 2",
       " 2 2 2 2 2 4 2 2 2 2 2 2 2 2 9 3,1 2 5 2 2 2 2,5 2,1 2 2,1 4,1 2,3 2,4 3 2,1 3 8 3 2,1 4,5",
       " 6 b,1 4n 18 2 4 4,2 j s,y 2,1 4,2 2 2 2 2 2 2 2 2 2 2 2 2,4 2 3 3 1h,1b 2 2 2 2 2 2 2 2 2",
       " 2 2 2 2 2 2 2 2 a 2 2 2 2 2 2 2 2 2 2 2 2 2 2 2 2 2 2 2 2 2 2 2 2 2 2 3 2 2 2 2 2 2,1 2 2",
       " 2 2 2 2 2 2 2 2 2 2 2 2 2 2 2 2 2 2 2 2 2 2 2 2 2 2 2 2 2 2 2 2 2 2 2 2 2 2 2 2 2 2 2 2 2",
       " 2 1e,12 289,16 3,2 l5,5 1oj,8 2 6n 4 h 37 2 2 2 2 2 2 2 2 2 2 2 2 2 2 2 2 2 2 2 2 2 2 2 2",
       " 2 2 2 2 2 2 2 2 2 2 2 2 2 2 2 2 2 2 2 2 2 2 2 2 2 2 2 2 2 2 2 2 2 2 2 2 2 2 2 2 2 2 2 2 2",
       " 2 2 2 2 2,6 6 2 2 2 2 2 2 2 2 2 2 2 2 2 2 2 2 2 2 2 2 2 2 2 2 2 2 2 2 2 2 2 2 2 2 2 2 2 2",
       " 2 2 2 2 2 2 2 2 2,8 9,5 b,7 9,7 9,5 b,7 9,7 9,d 3,1g 2,1 5 2 4,2 2,1 5 4,3 3,1 9,7 b,2 2,",
       "1 5 9e y,f 5 ng,p 1fr,1b 2 4,1 2 2 2 7 3 b 2 2 2 2 2 2 2 2 2 2 2 2 2 2 2 2 2 2 2 2 2 2 2 2",
       " 2 2 2 2 2 2 2 2 2 2 2 2 2 2 2 2 2 2 2 2 2 2 2 2 2 9 2 5 d,11 2 6 nx0 2 2 2 2 2 2 2 2 2 2 ",
       "2 2 2 2 2 2 2 2 2 2 2 2 k 2 2 2 2 2 2 2 2 2 2 2 2 2 3s 2 2 2 2 2 2 4 2 2 2 2 2 2 2 2 2 2 2",
       " 2 2 2 2 2 2 2 2 2 2 2 2 2 2 2 2 2 2 2 b 2 3 2 2 2 2 5 5 2,1 3 2 2 2 2 2 2 2 2 2 c 2 2 2 2",
       " 2 2 2 5 2 3 4 6 2 2 r nx t,27 fnl,6 d,4 tm,p y6,13 3t,z 4c,a 2,e 2,6 2,1 1dw,1e 3i,l 27v,",
       "v gw1,v o83,x"]),
    (["dash"], ["19 125 1g 2te sm 1l6,5 1q 14 g av 2dh 3 w,1 5 t cf k 34 14lt,1 12 b 4q 2u9 8v"]),
    (["defaultignorablecodepoint", "di"],
      ["4t iq jx 283,1 190,1 2e,4 1ks,4 r,4 1e,f 3cl 14f0,f 6o 4h 28,8 119k,3 440,7 h406,35r"]),
    (["deprecated", "dep"], ["95 10q 1s4 2 1m2,1 1qe,5 je,1 jh07"]),
    (["diacritic", "dia"],
      ["2m 2 20 7 5 3,1 e0,4e 2,7 6,5 i,1 5 a,1 72,4 5u 1k,18 2 2,1 2,1 2 3o,7 5,1 3r,1 5,1 4,2 1w",
       ",q 2k,a 1n,a z,1 3j,7 16,9 h,r 1q h 4,3 t 23 h 33 h 33 h 1c,2 1p h 8 3c 33 h 33 h 32,1 h 3",
       "h 34 d,5 2 30 e,4 24,1 s 2 2 5,1 1v,2 2,1 1r 35 2,1 15,1 5,4 q,6 2 b,1 jm,2 qd,1 v 45,a a ",
       "9o,2 85 l,7 3 1d,e 3,a 2x g 13,8 1j,1 1n c,1 1v,1 1t,5 2b,o 5 7 3,2 1f,1q 1d,z 6,b 12,a ce",
       " 2,2 c,2 e,2 e,2 e,1 2k1,2 8u e3,5 2y,3 2o n77 d,1 2 t,1 2b,1 f,x 2v,2 32,1 d 12 48 s,h 1m",
       ",3 11 2o d 11 46,2 1u,3 1g 2t,4 a,2 3l,1 fn5 le,f 7j 2 1c 1a,1 1w l9 ww,5 2,15 2,8 hq,2 5 ",
       "4m,1 fw,5 13 r,4 b4,2 1z,a 1e,3 5d 16 21,1 3d,1 1r 25 a,2 2x,1 4z,1 29,1 h p,6 4,4 2i,2 2,",
       "1 e,1 2o 4 3g,1 70,1 3j 3b,1 38 7i,1 77,1 5 4d 2c j 2a bq 77 2,1 2a bu,1 o 44t,e 8uy 1xd,4",
       " 1o,6 fp,1 f7,g 29,1 cn3,3 2,6 2,1 64i,19 3,m f5,2 4,5 9,7 3,6 v,3 2v7,1p 5f,6 ag 1q,3 lb,",
       "1 kh,6 32,2 2,2"]),
    (["emoji"],
      ["z 7 6,9 34 5 68e d 61 n 2j,5 g,1 a8,1 d 4n q,a 5,2 5k 6g,1 b a 1n,3 2,4 a 3 3,1 3 5 3 2,1 ",
       "3 4 4,1 9,2 6 2 6,b c,1 3 2,1 2 j 3,1 j,5 2 2,1 4,1 6 3,1 5,1 c,1 6,1 3 6,1 2 2,1 l,1 6,5 ",
       "2,3 3 5 3 3,5 2 3 2 2 7 4 7 b,1 g 3 5 2 5,2 2 c,1 1d,2 a f f ad,1 cw,2 k,1 1g 5 yj d gq 2 ",
       "2fzf 5n 4h,1 d,1 f 3,9 24,p 2,1 o l 3,8 m,1 4v,x 3,33 3,1 2,2 3,2a 3,2 2,7a 2,1q c,5 2,n 8",
       ",1 3,7 d 3,3 3 5,1 e,1 3 9,1 a 6,2 d,2 9,2 3 2 5 7 4 7,2d 1d,1x 6,7 3,2 5,9 4 2,1 4 3,9 6c",
       ",b 5 7w,1a 2,9 2,54 35,c 4,9 6,1j 8,e 3,a 7,8"]),
    (["emojicomponent", "ecomp"], ["z 7 6,9 6ac 5y 17os 1c5z,p e4,4 14h,3 gw31,2n"]),
    (["emojimodifier", "emod"], ["2qrf,4"]),
    (["emojimodifierbase", "ebase"],
      ["7j1 64 h,3 2iyg 1p,2 3 3,2 3a,1 3,a m,i 4 5,2 2,2 8 2 p 5m,1 5 m 5,1 4v,2 4,4 2c h,2 a c g",
       "0 3 9,7 7 a,9 3,2 1l 1q,1 2,1 2 i,2 2,c 6e,2 17,8"]),
    (["emojipresentation", "epres"],
      ["6xm,1 5q,3 4 3 ei,1 m,1 1f,b 18 k e 9,1 i,1 6,1 9 6 m 8,1 2 5 3 8 5,1 t 10 2 5,2 2 1q,2 p ",
       "f nw,1 1g 5 2hf3 5n 5b 3,9 24,p 2 p l 3,4 2,2 m,1 4v,w d,8 2,1x 2,l d,16 5,4 d,g 4 4,1y 2 ",
       "2,56 3,1q e,3 2,n j r,1 e 2f,2c 1d,1x 7 4,2 3,2 5,3 c,1 8,8 6c,b 5 7w,1a 2,9 2,54 35,c 4,9",
       " 6,1j 8,e 3,a 7,8"]),
    (["extendedpictographic", "extpict"],
      ["4p 5 68e d 61 n 2j,5 g,1 a8,1 d 2o 1z q,a 5,2 5k 6g,1 b a 1n,3 2,5 2,b 2,35 b,39 3,a 2 2 7",
       " 4 7 b,1 g 3 5 2 5,2 2 c,4 1a,2 a f f ad,1 cw,2 k,1 1g 5 yj d gq 2 2fzb,73 e,2 w 1p,5 d,1 ",
       "f 3,9 j,1k s,e b l 3,8 2,3 a,c1 6,8t 9,7d 1d,3j 39,b 2e,16 d,3 1l,7 b,5 15,7 v,29 d,1a 2,9",
       " 2,c8 75,sd"]),
    (["extender", "ext"],
      ["53 ex,1 of ca hj 3u 2i kx 3k 1tw 1l h0 b3 1x 3uy 18,4 2w,1 2m,2 lxz 16f qr n 3u 31 m,1 gos",
       " 1ld,1 158 s 5 y0 86 39,1 dv,2 y8 fxm,1 wt,1 2 me1,1 xe np,2"]),
    (["graphemelink", "grlink"],
      ["1u5 3k 3k 3k 3k 3k 3k 3k 32,1 h 3h 34 3k 5m 51,1 1cq,1 v 4e i6 6c 2u,1 1z,1 3gs o7b 12 48 ",
       "3z 31 8m 6v imq 16v 16 f 1m 3e,1 3w 39 51 2r 3l,2 36 3k 71 3k 3b 39 7i 78,1 4i 2c j 2a bq ",
       "79,1 2a bu,1 d0t"]),
    (["hexdigit", "hex"], ["1c,9 8,5 r,5 1eay,9 8,5 r,5"]),
    (["hyphen"], ["19 3k yl 3ng 1l6,1 2rq kk 14ko 4q 2g"]),
    (["idcompatmathcontinue"], ["4y,1 6 69j 4,a 2,e ac 5 n 2e8z q w q w q w q w q"]),
    (["idcompatmathstart"], ["6pu 5 n 2e8z q w q w q w q w q"]),
    (["idsbinaryoperator", "idsb"], ["9gw,1 3,9 du"]),
    (["idstrinaryoperator", "idst"], ["9gy,1"]),
    (["idsunaryoperator", "idsu"], ["9ha,1"]),
    (["ideographic", "ideo"],
      ["9hi,1 q,8 f,2 qu,533 1t,g73 hkx,a5 3,2x n4b s,4qf 9,yd 16,9 76w,az f7p,wyn x,37d 7,65 3,4g",
       "1 f,5rk g,h9 1wj,f1 15v,3t6 6,38f"]),
    (["logicalorderexception", "loe"], ["2tc,4 3g,4 25t,2 3 smz,1 3 2,1"]),
    (["modifiercombiningmark", "mcm"], ["190,1 3 3o 7 4,1 de,1 2,2 4 w"]),
    (["noncharactercodepoint", "nchar"],
      ["1e4w,v en,1 1ekf,1 1ekf,1 1ekf,1 1ekf,1 1ekf,1 1ekf,1 1ekf,1 1ekf,1 1ekf,1 1ekf,1 1ekf,1 1",
       "ekf,1 1ekf,1 1ekf,1 1ekf,1 1ekf,1"]),
    (["otherdefaultignorablecodepoint", "odi"],
      ["nj 2s0,1 190,1 1ps 3cv 14qk 28,8 i9e0 2,t 2p,3j 6p,2rz"]),
    (["patternsyntax", "patsyn"],
      ["x,e b,6 r,3 2 r,3 z,6 2 2,1 2 2,1 5 5 4 o w 655,n 9,e 3,i 2,9 8i,jz 4h,hh v,vf e9,3j aq,2 ",
       "5,o g 14i6,1 7a,1"]),
    (["patternwhitespace", "patws"], ["9,4 j 2t 689,1 p,1"]),
    (["prependedconcatenationmark", "pcm"], ["16o,5 60 1e ap,1 29 1g4b g"]),
    (["quotationmark", "qmark"], ["y 5 3o g 671,7 q,1 2rs cq,3 e,2 14pu,3 5a 5 2j,1"]),
    (["radical"], ["96o,p 2,2g d,5x"]),
    (["regionalindicator", "ri"], ["2qcm,p"]),
    (["sentenceterminal", "sterm"],
      ["x d h 11m 44,2 51 18,2 6v 1q 2 4,1 86,1 1d1,1 lz 5,1 li 5j,1 4e,1 1a 6 8r,1 9v,3 4j,1 b,1 ",
       "3,1 u,2 58,1 1u,1 px o,1 a,2 2i8,2 8j e n,1 by n3x 7j,1 6c 4 an,1 2f,1 2o 49,1 44,2 41,1 6",
       "y g87 3,1 1o 4,1 4q d h 1u 25x,1 zi,4 19,3 5a,1 3a,3 3k,2 3m,1 7 h,1 2h,1 2,1 31 8b,1 3a,1",
       " ae,1 6,e 2y,1 6y,2 ee 2 70,1 2g,1 bp,1 j9,1 23,1 eui,1 3q 1u,1 c fe,1 89 fev 5wp"]),
    (["softdotted", "sd"],
      ["2x,1 5h 7u v 1h l 8x 2r 2 4y2 1g e 4 3p 4e bq 5z,1 27n 2bom,1 1f,1 1f,1 1f,1 1f,1 1f,1 1f,",
       "1 1f,1 1f,1 1f,1 1f,1 1f,1 1f,1 1on 8i,1 r"]),
    (["terminalpunctuation", "term"],
      ["x b 2 c,1 4 n3 9 ea 1m 21 f 2,2 51 18,a 2 6k,1 1j,5 2,7 w 7a,1 z9,1 4t 5,5 8o,1 ly,7 li 3h",
       ",2 20,1 4e,2 4 14,3 3,1 8r,1 9v,3 4j,1 b,1 2,2 u,2 58,4 1r,1 px o,1 a,2 2i8,2 8j e 5 b 2,1",
       " 4,1 bx,1 n3w,1 7i,2 6c,4 an,1 2f,1 2o 48,2 44,2 3k h,1 6y g87 3,1 1m,2 2,3 4q b 2 c,1 4 1",
       "u 3 u3 1d w7 5k 8n,1 49,5 1x,5 2i,3 qh,4 19,3 5a,6 35,3 3k,2 3m,1 7 h,1 2h,4 31 8b,1 3a,2 ",
       "d,1 9z,3 4,e 2y,1 6y,2 ee 2 70,1 2g,1 5,1 bj,2 1a hy,1 23,1 10s,4 dtm,1 3q 1u,2 b fe,1 88,",
       "1 fev 5wo,3"]),
    (["unifiedideograph", "uideo"],
      ["a9s,533 1t,g73 hsf,1 2 2,1 b 2 2,1 3,2 1fpz,wyn x,37d 7,65 3,4g1 f,5rk g,h9 3hf,3t6 6,38",
       "f"]),
    (["variationselector", "vs"], ["4qz,2 2 19f5,f i9yp,6n"])]

def listed? (name : String) : Option (List (Nat × Nat)) :=
  (listedProperties.find? fun p => p.1.contains name).map fun p => decodeRanges (String.join p.2)

def otherIdentifierStart : List (Nat × Nat) :=
  [(0x1885, 0x1886), (0x2118, 0x2118), (0x212e, 0x212e), (0x309b, 0x309c)]

/-- Characters that may stand inside an identifier though they are neither
letters, marks, digits nor connectors. -/
def otherIdentifierPart : List (Nat × Nat) :=
  [(0xb7, 0xb7), (0x387, 0x387), (0x1369, 0x1371), (0x19da, 0x19da), (0x200c, 0x200d),
    (0x30fb, 0x30fb), (0xff65, 0xff65)]

def patternLetter : List (Nat × Nat) := [(0x2e2f, 0x2e2f)]

/-- Characters whose compatibility forms do not begin an identifier, though
they may stand inside one. -/
def unstableStart : List (Nat × Nat) :=
  [(0xe33, 0xe33), (0xeb3, 0xeb3), (0xff9e, 0xff9f)]

def unstablePart : List (Nat × Nat) :=
  [(0x37a, 0x37a), (0x309b, 0x309c), (0xfc5e, 0xfc63), (0xfdfa, 0xfdfb), (0xfe70, 0xfe70),
    (0xfe72, 0xfe72), (0xfe74, 0xfe74), (0xfe76, 0xfe76), (0xfe78, 0xfe78), (0xfe7a, 0xfe7a),
    (0xfe7c, 0xfe7c), (0xfe7e, 0xfe7e)]

def identifierStart : List (Nat × Nat) :=
  withCategory (fun c => inGroup 'L' c || c == "Nl") ++ otherIdentifierStart

def identifierPart : List (Nat × Nat) :=
  identifierStart ++ withCategory (["Mn", "Mc", "Nd", "Pc"].contains ·) ++ otherIdentifierPart

def cased : List (Nat × Nat) :=
  lowercase ++ uppercase ++ withCategory (· == "Lt")

def otherMath : List String :=
  ["2m oi,2 3 r,1 3,1 5k1 s,2 c x,3 p,1 f,1 1u,c 5 4,1 5,4 j 5 3,9 2 4,4 7 4,1 3,1 2,2 2,5 4,3 6,",
    "4 24,4 3,3 2,1 2,1 2 2,4 3,1 5,1 5,h 3,1 2 2,6 2 7,1 83,3 4p,1 2 p i ce,1 d,8 6,4 6,1 3,1 4,4",
    " f 2 3,5 p,1 1m 2 u,3 a,1 9j,1 w,9 b8,l 1s,3 x,1 15yc 2 5 5w 2 160y,2c 2,1y 2,1 3 3,1 3,3 2,b",
    " 2 2,6 2,1s 2,3 3,7 2,6 2,r 2,3 2,4 2 4,6 2,9f 3,o 2,o 2,u 2,o 2,u 2,o 2,u 2,o 2,u 2,o 2,7 3,",
    "1d 4ch,3 2,q 2,1 2 3 2,9 2,3 2 2 7 5 2 2 2,2 2,1 2 3 2 2 2 2 2,1 2 3,3 2,6 2,3 2,3 2 2,9 2,g ",
    "6,2 2,4 2,g"]

def math : List (Nat × Nat) :=
  withCategory (· == "Sm") ++ decodeRanges (String.join otherMath)

def wordPunctuation : List (Nat × Nat) :=
  [(0x27, 0x27), (0x2e, 0x2e), (0x3a, 0x3a), (0xb7, 0xb7), (0x387, 0x387), (0x55f, 0x55f),
    (0x5f4, 0x5f4), (0x2018, 0x2019), (0x2024, 0x2024), (0x2027, 0x2027), (0xfe13, 0xfe13),
    (0xfe52, 0xfe52), (0xfe55, 0xfe55), (0xff07, 0xff07), (0xff0e, 0xff0e), (0xff1a, 0xff1a)]

def caseIgnorable : List (Nat × Nat) :=
  withCategory (["Mn", "Me", "Cf", "Lm", "Sk"].contains ·) ++ wordPunctuation

def noGraphemeBase : List (Nat × Nat) :=
  withCategory (fun c => inGroup 'C' c || c == "Zl" || c == "Zp") ++ graphemeExtend

end SeedStream.Unicode
