import Std.Data.TreeMap
import SeedStream.Unicode.Ranges

/-!
# Simple case folding

Characters that differ only in case fold to one character. A set of characters
is closed under folding when with each character it has all that fold alike.
-/

set_option autoImplicit false

namespace SeedStream.Unicode

/-- Runs of characters that fold to others: first character in base 36, number, step, and the
first image in base 36. -/
def foldRuns : List String :=
  ["1t,26,1,2p 51,1,1,qk 5c,23,1,68 60,7,1,6w 74,24,2,75 8i,3,2,8j 8p,8,2,8q 96,23,2,97 ag,1,1,73",
    " ah,3,2,ai an,1,1,37 ap,1,1,gj aq,2,2,ar au,1,1,gk av,1,1,aw ax,2,1,gm az,1,1,b0 b2,1,1,d9 b3",
    ",1,1,gp b4,1,1,gr b5,1,1,b6 b7,1,1,gw b8,1,1,gz ba,1,1,h5 bb,1,1,h4 bc,1,1,bd bg,1,1,hb bh,1,",
    "1,he bj,1,1,hh bk,3,2,bl bq,1,1,hs br,1,1,bs bt,1,1,hv bw,1,1,bx by,1,1,i0 bz,1,1,c0 c1,2,1,i",
    "2 c3,2,2,c4 c7,1,1,ia c8,1,1,c9 cc,1,1,cd ck,1,1,cm cl,1,1,cm cn,1,1,cp co,1,1,cp cq,1,1,cs c",
    "r,9,2,cs da,9,2,db dt,1,1,dv du,2,2,dv dy,1,1,b9 dz,1,1,cf e0,20,2,e1 f4,1,1,bi f6,9,2,f7 fu,",
    "1,1,8rp fv,1,1,fw fx,1,1,be fy,1,1,8rq g1,1,1,g2 g3,1,1,ao g4,1,1,i1 g5,1,1,i4 g6,5,2,g7 n9,1",
    ",1,qh og,2,2,oh om,1,1,on ov,1,1,s3 p2,1,1,q4 p4,3,1,q5 p8,1,1,r0 pa,2,1,r1 pd,17,1,q9 pv,9,1",
    ",qr qq,1,1,qr r3,1,1,rb r4,1,1,qa r5,1,1,qg r9,1,1,qu ra,1,1,qo rc,12,2,rd s0,1,1,qi s1,1,1,q",
    "p s4,1,1,qg s5,1,1,qd s7,1,1,s8 s9,1,1,s2 sa,1,1,sb sd,3,1,or sg,16,1,uo sw,32,1,ts v4,17,2,v",
    "5 wa,27,2,wb xs,1,1,y7 xt,7,2,xu y8,48,2,y9 10x,38,1,129 3a8,38,1,8w0 3bb,1,1,8x3 3bh,1,1,8x9",
    " 3y0,6,1,3xs 5mo,1,1,tu 5mp,1,1,tw 5mq,1,1,u6 5mr,2,1,u9 5mt,1,1,ua 5mu,1,1,ui 5mv,1,1,v7 5mw",
    ",1,1,wuj 5mx,1,1,5my 5n4,43,1,3bk 5od,3,1,3ct 5xc,75,2,5xd 61n,1,1,601 61q,1,1,67 61s,48,2,61",
    "t 64o,8,1,64g 654,6,1,64w 65k,8,1,65c 660,8,1,65s 66g,6,1,668 66x,4,2,66p 67c,8,1,674 688,8,1",
    ",680 68o,8,1,68g 694,8,1,68w 69k,2,1,69c 69m,2,1,67k 69o,1,1,69f 69q,1,1,qh 6a0,4,1,67m 6a4,1",
    ",1,69v 6ab,1,1,pc 6ag,2,1,6a8 6ai,2,1,67q 6ar,1,1,q8 6aw,2,1,6ao 6ay,2,1,67u 6b0,1,1,6at 6bc,",
    "2,1,67s 6be,2,1,67w 6bg,1,1,6b7 6jq,1,1,qx 6ju,1,1,2z 6jv,1,1,6d 6k2,1,1,6ku 6lc,16,1,6ls 6mb",
    ",1,1,6mc 792,26,1,79s 8ow,48,1,8q8 8rk,1,1,8rl 8rm,1,1,h7 8rn,1,1,5tp 8ro,1,1,hp 8rr,3,2,8rs ",
    "8rx,1,1,gh 8ry,1,1,hd 8rz,1,1,gg 8s0,1,1,gi 8s2,1,1,8s3 8s5,1,1,8s6 8se,2,1,fz 8sg,50,2,8sh 8",
    "vf,2,2,8vg 8vm,1,1,8vn wu8,23,2,wu9 ww0,14,2,ww1 x0i,7,2,x0j x0y,31,2,x0z x2x,2,2,x2y x31,1,1",
    ",5tl x32,5,2,x33 x3f,1,1,x3g x3h,1,1,h1 x3k,2,2,x3l x3q,10,2,x3r x4a,1,1,h2 x4b,1,1,gs x4c,1,",
    "1,gx x4d,1,1,h8 x4e,1,1,h6 x4g,1,1,im x4h,1,1,hz x4i,1,1,il x4j,1,1,xub x4k,8,2,x4l x50,1,1,x",
    "3o x51,1,1,hu x52,1,1,5u6 x53,2,2,x54 x57,1,1,h0 x58,1,1,x59 x5c,1,1,x5d x5i,3,2,x5j x5o,1,1,",
    "bf x6d,1,1,x6e xv4,80,1,3vk 1dl1,1,1,1dl2 1ee9,26,1,1ef5 1fcw,40,1,1fe0 1fhs,36,1,1fiw 1fn4,1",
    "1,1,1fo7 1fng,15,1,1foj 1fnw,7,1,1foz 1fo4,2,1,1fp7 1h1c,51,1,1h34 1h74,22,1,1h80 1jfk,32,1,1",
    "jgg 20cg,32,1,20dc 2olc,34,1,2oma"]

def foldPairs : List (Nat × Nat) :=
  ((String.join foldRuns).splitToList (· == ' ')).flatMap fun run =>
    match run.splitToList (· == ',') with
    | [first, number, step, image] =>
      (List.range (decimal number)).map fun i =>
        (base36 first + i * decimal step, base36 image + i * decimal step)
    | _ => []

/-- The characters that fold to the same image as another: the image and the rest. -/
def foldClasses : List (List Nat) :=
  (foldPairs.foldl (fun (m : Std.TreeMap Nat (List Nat)) p =>
    m.insert p.2 (p.1 :: m.getD p.2 [])) ∅).toList.map fun (image, others) => image :: others

end SeedStream.Unicode
