import SeedStream.Unicode.Script

/-!
# Sets of scripts

Some characters are used with several scripts, or with other scripts than their
own. They are listed by their sets of scripts; all others are used with their own.
-/

set_option autoImplicit false

namespace SeedStream.Unicode

/-- Sets of script codes, and the characters that are used with them. -/
def scriptSets : List (String × String) :=
  [("Adlm Arab", "6dr"),
    ("Adlm Arab Gara Nkoo Rohg Syrc Thaa Yezi", "17j"),
    ("Adlm Arab Hung", "94x"),
    ("Adlm Arab Mand Mani Ougr Phlp Rohg Sogd Syrc", "18g"),
    ("Aghb Cher Copt Cyrl Goth Grek Latn Osge Syrc Tfng Todr", "lg"),
    ("Aghb Cher Goth Latn Sunu Thai", "mp"),
    ("Aghb Latn Todr", "ny"),
    ("Arab Copt", "1f4w,r"),
    ("Arab Gara Nkoo Rohg Syrc Thaa Yezi", "170 f"),
    ("Arab Nkoo", "1e0u,1"),
    ("Arab Rohg", "1ck"),
    ("Arab Syrc", "18r,a r"),
    ("Arab Syrc Thaa", "17g"),
    ("Arab Thaa", "1e5u b"),
    ("Arab Thaa Yezi", "19c,9"),
    ("Armn Cyrl Dupl Goth Grek Hebr Latn Perm Syrc Tale", "lk"),
    ("Armn Geor Glag", "13d"),
    ("Avst Cari Copt Dupl Elba Geor Glag Gong Goth Grek Hani Latn Lydi Mahj Perm Shaw", "53"),
    ("Avst Cari Geor Hung Kthi Lydi Samr", "94h"),
    ("Avst Orkh", "94g"),
    ("Beng", "5pz"),
    ("Beng Cakm Sylo", "1ye,9"),
    ("Beng Cyrl Deva Latn Lisu Thai Toto", "jg"),
    ("Beng Deva", "5pd k,1"),
    ("Beng Deva Dogr Gong Gonm Gran Gujr Gukh Guru Knda Limb Mahj Mlym Nand Onao Orya Sind " ++
      "Sinh Sylo Takr Taml Telu Tirh",
      "1ut"),
    ("Beng Deva Dogr Gong Gonm Gran Gujr Guru Knda Mahj Mlym Nand Onao Orya Sind Sinh Sylo " ++
      "Takr Taml Telu Tirh",
      "1us"),
    ("Beng Deva Gran Gujr Guru Knda Latn Mlym Nand Newa Orya Shrd Taml Telu Tirh", "1u9"),
    ("Beng Deva Gran Gujr Guru Knda Latn Mlym Newa Orya Taml Telu Tirh", "1ua"),
    ("Beng Deva Gran Knda", "5ow 2"),
    ("Beng Deva Gran Knda Mlym Nand Orya Sinh Telu Tirh Tutg", "5pu"),
    ("Beng Deva Newa Shrd", "5pp"),
    ("Beng Deva Newa Telu", "5p4"),
    ("Beng Deva Newa Telu Tirh", "5p1"),
    ("Beng Deva Shrd", "5pm"),
    ("Beng Deva Telu", "5p2"),
    ("Beng Deva Tutg", "xdd"),
    ("Bopo Hang Hani Hira Kana", "9hf g 9,3 h 7 14pa,1"),
    ("Bopo Hang Hani Hira Kana Lisu Mong Tibt Yiii", "9hm,1"),
    ("Bopo Hang Hani Hira Kana Mong Phag Yiii", "9he"),
    ("Bopo Hang Hani Hira Kana Mong Tibt Yiii", "9hk,1"),
    ("Bopo Hang Hani Hira Kana Mong Yiii", "9hd"),
    ("Bopo Hang Hani Hira Kana Yiii", "9ho,5 3,7 68 14rq,4"),
    ("Bopo Hani", "9ii,3"),
    ("Bopo Latn", "jr 2,2 e"),
    ("Bugi Java", "xjj"),
    ("Buhd Hano Tagb Tglg", "4l1,1"),
    ("Cakm Mymr Tale", "37k,9"),
    ("Cari Geor Glag Hung Lyci Orkh", "6e2"),
    ("Cari Grek Hung Mero", "6e5"),
    ("Cher Copt Cyrl Grek Latn Perm Sunu Tale", "lc"),
    ("Cher Cyrl Grek Latn Osge Sunu Tale Todr", "ld"),
    ("Cher Cyrl Latn Osge", "ln"),
    ("Cher Cyrl Latn Tfng", "le"),
    ("Cher Dupl Kana Latn Syrc", "mb"),
    ("Cher Dupl Latn Syrc", "mc"),
    ("Cher Latn Syrc", "mo"),
    ("Cher Latn Tale", "lo"),
    ("Copt Dupl Hebr Latn Perm Syrc Tale Tfng Todr", "lj"),
    ("Copt Elba Glag Goth Kana Latn", "lh"),
    ("Copt Grek", "ok,1"),
    ("Copt Latn", "93r"),
    ("Cpmn Cprt Linb", "1erk,1"),
    ("Cprt Lina Linb", "1err,18"),
    ("Cprt Linb", "1erm 1h,8"),
    ("Cyrl Glag", "w4 3 88s nqk"),
    ("Cyrl Grek Latn Perm", "li"),
    ("Cyrl Latn", "w5,1"),
    ("Cyrl Latn Syrc", "5x4"),
    ("Cyrl Latn Todr", "lt"),
    ("Cyrl Perm", "w3"),
    ("Deva", "5ox 3 7 3,1 4,5 4 2,3"),
    ("Deva Dogr Gujr Guru Khoj Knda Kthi Mahj Mlym Modi Nand Shrd Sind Takr Tirh Tutg", "x80,2"),
    ("Deva Dogr Gujr Guru Khoj Knda Kthi Mahj Modi Nand Shrd Sind Takr Tirh Tutg", "x83,2"),
    ("Deva Dogr Gujr Guru Khoj Kthi Mahj Modi Shrd Sind Takr Tirh", "x88"),
    ("Deva Dogr Gujr Guru Khoj Kthi Mahj Modi Sind Takr Tirh", "x86,1 2"),
    ("Deva Dogr Kthi Mahj", "1uu,9"),
    ("Deva Gran", "5pv 5,1"),
    ("Deva Gran Knda", "5oz"),
    ("Deva Gran Knda Tutg", "5pw"),
    ("Deva Gran Latn", "6i8"),
    ("Deva Knda Mlym Orya Taml Telu", "5p6"),
    ("Deva Nand Newa", "5pl"),
    ("Deva Newa", "5pn"),
    ("Deva Newa Shrd", "5p3"),
    ("Deva Newa Tirh", "5pe"),
    ("Deva Shrd", "5p5 3,1 3"),
    ("Deva Taml", "xdf"),
    ("Dupl", "94s 26p0,3"),
    ("Dupl Latn Syrc", "lm"),
    ("Ethi Latn", "lq"),
    ("Geor Glag Latn", "3cr"),
    ("Glag Latn Sunu Syrc Thai", "lf"),
    ("Gran Taml", "2cm,d 1fym 2 1k,1 2hg,1 2"),
    ("Grek", "n6 3 58b,1"),
    ("Grek Latn Perm Todr", "lv"),
    ("Gujr Khoj", "25i,9"),
    ("Guru Mult", "21y,9"),
    ("Hani", "9hi 1k,1 9d,f x,11 1n,13 1l,1c g,b 1g 2h,o b,4 2p,u 2a1u,h 63j,1"),
    ("Hani Hira Kana", "9j0,1"),
    ("Hani Latn", "wzk,7"),
    ("Hani Tang", "9gw,f ds"),
    ("Hira Kana", "9ip,4 2s,3 4 2k 14s4 1a,1"),
    ("Kali Latn Mymr", "xf2"),
    ("Knda Nand Tutg", "2jq,9"),
    ("Latn", "o3,c"),
    ("Latn Lisu", "jx"),
    ("Latn Mong Phag", "6cv"),
    ("Latn Osge", "ns"),
    ("Latn Sunu", "lp 3"),
    ("Latn Sunu Syrc", "ml"),
    ("Latn Syrc", "m8 5 9"),
    ("Latn Tfng", "ll"),
    ("Latn Thai", "k7"),
    ("Mani Ougr", "1gqa"),
    ("Mong Phag", "4qq,1 2"),
    ("Nand", "5q2"),
    ("Runr", "4iz,2"),
    ("Syrc", "5x6")]

def scriptSetsWhere (keep : List String → Bool) : List (Nat × Nat) :=
  (scriptSets.filter fun p => keep (p.1.splitToList (· == ' '))).flatMap fun p => decodeRanges p.2

end SeedStream.Unicode
