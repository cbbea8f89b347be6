import PoolScaler.Text.Runs
set_option autoImplicit false

/-!
# Characters in names

What becomes of each character of a name: it stays, it is left out, others
stand for it, or the name cannot have it.
-/

namespace PoolScaler.Web.Idna

/-- What becomes of a character. -/
inductive Use where
  /-- It stays. -/
  | kept
  /-- It is left out. -/
  | dropped
  /-- No name can have it. -/
  | refused
  /-- Others stand for it. -/
  | mapped (cs : List Char)
  deriving DecidableEq, Repr, Inhabited

/-- What becomes of a run of characters. -/
inductive Rule where
  /-- All stay. -/
  | kept
  /-- All are left out. -/
  | dropped
  /-- No name can have them. -/
  | refused
  /-- They are mapped to the run that starts at `target`. -/
  | shifted (start target : Nat)
  /-- Every second one from the start on is mapped to the one after it. -/
  | paired (start : Nat)
  /-- The same characters stand for each. -/
  | replaced (cs : List Char)
  deriving DecidableEq, Repr, Inhabited

/-- The rule of a word of the table. -/
def Rule.read (start : Nat) (kind : Char) (rest : List Char) : Rule :=
  match kind with
  | 'v' => .kept
  | 'i' => .dropped
  | 's' => .shifted start ((Text.hexValues? rest).getD 0)
  | 'p' => .paired start
  | 'r' =>
    .replaced (((String.ofList rest).splitOn ".").filterMap fun n =>
      (Text.hexValues? n.toList).map Char.ofNat)
  | _ => .refused

/-- The runs of the mapping for names. -/
def rules : Text.Runs Rule := .ofText Rule.read "
41v 1as61 25v 20x 1s20 7v 1r20.308 1v 1s61 2v 1i 1v 1r20.304 2v 2s32 1r20.301 1s3bc 2v 1r20.327
1s31 1s6f 1v 1r31.2044.34 1r31.2044.32 1r33.2044.34 1v 17se0 1v 7sf8 21v 30p 1r69.307 1v 2r69.6a
4p 1v 6p 2r6c.b7 8p 1r2bc.6e 2ep 1sff 6p 1s73 1v 1s253 4p 1s254 1s188 1v 2s256 1s18c 2v 1s1dd
1s259 1s25b 1s192 1v 1s260 1s263 1v 1s269 1s268 1s199 3v 1s26f 1s272 1v 1s275 6p 1s280 1s1a8 1v
1s283 2v 1s1ad 1v 1s288 1s1b0 1v 2s28a 4p 1s292 1s1b9 3v 1s1bd 7v 3r64.17e 3r6c.6a 3r6e.6a 10p
1v 12p 1v 3r64.7a 1s1f5 1v 1s195 1s1bf 28p 1s19e 1v 12p 6v 1s2c65 1s23c 1v 1s19a 1s2c66 2v 1s242
1v 1s180 1s289 1s28c ap 60v 1s68 1s266 1s6a 1s72 1s279 1s27b 1s281 1s77 1s79 1fv 1r20.306
1r20.307 1r20.30a 1r20.328 1r20.303 1r20.30b 2v 1s263 1s6c 1s73 1s78 1s295 5bv 2s300 1v 1s313
1r308.301 1s3b9 9v 1i 20v 4p 1s2b9 1v 1s377 1v 2x 1r20.3b9 3v 1s3b 1s3f3 4x 1r20.301
1r20.308.301 1s3ac 1sb7 3s3ad 1x 1s3cc 1x 2s3cd 1v 11s3b1 1x 9s3c3 23v 1s3d7 1s3b2 1s3b8 1s3c5
1s3cd 1s3cb 1s3c6 1s3c0 1v 18p 1s3ba 1s3c1 1s3c3 1v 1s3b8 1s3b5 1v 1s3f8 1v 1s3c3 1s3fb 2v 3s37b
10s450 20s430 30v 22p 8v 36p 1s4cf ep 1v 60p 1x 26s561 2x 2ev 1r565.582 3v 2x 3v 1x 37v 8x 1bv
4x 6v 11x 16v 1x 58v 1r627.674 1r648.674 1r6c7.674 1r64a.674 64v 1x 30v 2x 3bv 2x 65v ex 3bv 2x
31v 2x fv 1x 1cv 2x 1v 1x bv 5x 20v 7x 4bv 1x 75v 1r915.93c 1r916.93c 1r917.93c 1r91c.93c
1r921.93c 1r922.93c 1r92b.93c 1r92f.93c 24v 1x 8v 2x 2v 2x 16v 1x 7v 1x 1v 3x 4v 2x 9v 2x 2v 2x
4v 8x 1v 4x 1r9a1.9bc 1r9a2.9bc 1x 1r9af.9bc 4v 2x 19v 2x 3v 1x 6v 4x 2v 2x 16v 1x 7v 1x 1v
1ra32.a3c 1x 1v 1ra38.a3c 1x 2v 2x 1v 1x 5v 4x 2v 2x 3v 3x 1v 7x 1ra16.a3c 1ra17.a3c 1ra1c.a3c
1v 1x 1ra2b.a3c 7x 11v ax 3v 1x 9v 1x 3v 1x 16v 1x 7v 1x 2v 1x 5v 2x av 1x 3v 1x 3v 2x 1v fx 4v
2x cv 7x 7v 1x 3v 1x 8v 2x 2v 2x 16v 1x 7v 1x 2v 1x 5v 2x 9v 2x 2v 2x 3v 7x 3v 4x 1rb21.b3c
1rb22.b3c 1x 5v 2x 12v ax 2v 1x 6v 3x 3v 1x 4v 3x 2v 1x 1v 1x 2v 3x 2v 3x 3v 3x cv 4x 5v 3x 3v
1x 4v 2x 1v 6x 1v ex 15v 5x dv 1x 3v 1x 17v 1x 10v 2x 9v 1x 3v 1x 4v 7x 2v 1x 3v 1x 2v 2x 4v 2x
av 7x 16v 1x 3v 1x 17v 1x av 1x 5v 2x 9v 1x 3v 1x 4v 7x 2v 5x 3v 1x 4v 2x av 1x 3v cx dv 1x 3v
1x 33v 1x 3v 1x 6v 4x 10v 2x 1av 1x 3v 1x 12v 3x 18v 1x 9v 1x 1v 2x 7v 3x 1v 4x 6v 1x 1v 1x 8v
6x av 2x 3v cx 32v 1re4d.e32 7v 4x 1dv 25x 2v 1x 1v 1x 5v 1x 18v 1x 1v 1x cv 1recd.eb2 av 2x 5v
1x 1v 1x 7v 1x av 2x 1reab.e99 1reab.ea1 2v 20x cv 1sf0b 36v 1rf42.fb7 4v 1x 4v 1rf4c.fb7 4v
1rf51.fb7 4v 1rf56.fb7 4v 1rf5b.fb7 cv 1rf40.fb5 3v 4x 2v 1rf71.f72 1v 1rf71.f74 1rfb2.f80
1rfb2.f71.f80 1rfb3.f80 1rfb3.f71.f80 7v 1rf71.f80 11v 1rf92.fb7 4v 1x 4v 1rf9c.fb7 4v 1rfa1.fb7
4v 1rfa6.fb7 4v 1rfab.fb7 cv 1rf90.fb5 3v 1x fv 1x dv 25x a0v 26s2d00 1x 1s2d27 5x 1s2d2d 2x 2cv
1s10dc 62v 2i e8v 1x 4v 2x 7v 1x 1v 1x 4v 2x 29v 1x 4v 2x 21v 1x 4v 2x 7v 1x 1v 1x 4v 2x fv 1x
39v 1x 4v 2x 43v 2x 20v 3x 1av 6x 56v 2x 6s13f0 2x 280v 1x 1cv 3x 59v 7x 16v 9x 18v 9x 14v cx dv
1x 3v 1x 2v cx 34v 2i 28v 2x av 6x av 6x bv 5i av 6x 59v 7x 2bv 5x 46v ax 1fv 1x cv 4x cv 4x 1v
3x 2av 2x 5v bx 2cv 4x 1av 6x bv 3x 3ev 2x 41v 1x 1dv 2x bv 6x av 6x ev 2x 2ev 2x cv 14x 4dv 1x
a6v 8x 3cv 3x fv 3x 33v 1s432 1s434 1s43e 2s441 1s442 1s44a 1s463 1sa64b 1s1c8a 1v 5x 2bs10d0 2x
3s10fd 8v 8x 2bv 5x 2cv 1s61 1se6 1s62 1v 2s64 1s1dd 8s67 1v 1s6f 1s223 1s70 1s72 2s74 1s77 1s61
2s250 1s1d02 1s62 2s64 1s259 2s25b 1s67 1v 1s6b 1s6d 1s14b 1s6f 1s254 2s1d16 1s70 2s74 1s1d1d
1s26f 1s76 1s1d25 3s3b2 2s3c6 1s69 1s72 2s75 2s3b2 1s3c1 2s3c6 dv 1s43d 22v 1s252 1s63 1s255
1sf0 1s25c 1s66 1s25f 1s261 1s265 3s268 1s1d7b 1s29d 1s26d 1s1d85 1s29f 1s271 1s270 4s272 1s278
2s282 1s1ab 2s289 1s1d1c 2s28b 1s7a 3s290 1s3b8 40v 96p 4v 1r61.2be 1s1e61 2v 1sdf 1v 60p 8v
8s1f00 6v 2x 6s1f10 2x 8v 8s1f20 8v 8s1f30 6v 2x 6s1f40 2x 8v 1x 1s1f51 1x 1s1f53 1x 1s1f55 1x
1s1f57 8v 8s1f60 1v 1s3ac 1v 1s3ad 1v 1s3ae 1v 1s3af 1v 1s3cc 1v 1s3cd 1v 1s3ce 2x 1r1f00.3b9
1r1f01.3b9 1r1f02.3b9 1r1f03.3b9 1r1f04.3b9 1r1f05.3b9 1r1f06.3b9 1r1f07.3b9 1r1f00.3b9
1r1f01.3b9 1r1f02.3b9 1r1f03.3b9 1r1f04.3b9 1r1f05.3b9 1r1f06.3b9 1r1f07.3b9 1r1f20.3b9
1r1f21.3b9 1r1f22.3b9 1r1f23.3b9 1r1f24.3b9 1r1f25.3b9 1r1f26.3b9 1r1f27.3b9 1r1f20.3b9
1r1f21.3b9 1r1f22.3b9 1r1f23.3b9 1r1f24.3b9 1r1f25.3b9 1r1f26.3b9 1r1f27.3b9 1r1f60.3b9
1r1f61.3b9 1r1f62.3b9 1r1f63.3b9 1r1f64.3b9 1r1f65.3b9 1r1f66.3b9 1r1f67.3b9 1r1f60.3b9
1r1f61.3b9 1r1f62.3b9 1r1f63.3b9 1r1f64.3b9 1r1f65.3b9 1r1f66.3b9 1r1f67.3b9 2v 1r1f70.3b9
1r3b1.3b9 1r3ac.3b9 1x 1v 1r1fb6.3b9 2s1fb0 1s1f70 1s3ac 1r3b1.3b9 1r20.313 1s3b9 1r20.313
1r20.342 1r20.308.342 1r1f74.3b9 1r3b7.3b9 1r3ae.3b9 1x 1v 1r1fc6.3b9 1s1f72 1s3ad 1s1f74 1s3ae
1r3b7.3b9 1r20.313.300 1r20.313.301 1r20.313.342 3v 1s390 2x 2v 2s1fd0 1s1f76 1s3af 1x
1r20.314.300 1r20.314.301 1r20.314.342 3v 1s3b0 4v 2s1fe0 1s1f7a 1s3cd 1s1fe5 1r20.308.300
1r20.308.301 1s60 2x 1r1f7c.3b9 1r3c9.3b9 1r3ce.3b9 1x 1v 1r1ff6.3b9 1s1f78 1s3cc 1s1f7c 1s3ce
1r3c9.3b9 1r20.301 1r20.314 1x br20 1i 2v 2x 1v 1s2010 5v 1r20.333 cv 3x 1v 7x 1s20 3v
1r2032.2032 1r2032.2032.2032 1v 1r2035.2035 1r2035.2035.2035 4v 1r21.21 1v 1r20.305 8v 1r3f.3f
1r3f.21 1r21.3f dv 1r2032.2032.2032.2032 7v 1s20 5i 5x 6i 1s30 1s69 2x 6s34 1s2b 1s2212 1s3d
2s28 1s6e as30 1s2b 1s2212 1s3d 2s28 1x 1s61 1s65 1s6f 1s78 1s259 1s68 4s6b 1s70 2s73 3x 8v
1r72.73 19v ex 21v fx 1r61.2f.63 1r61.2f.73 1s63 1rb0.63 1v 1r63.2f.6f 1r63.2f.75 1s25b 1v
1rb0.66 2s67 3r68 1s127 2r69 2r6c 1v 1s6e 1r6e.6f 2v 3s70 2r72 2v 1r73.6d 1r74.65.6c 1r74.6d 1v
1s7a 1v 1s3c9 1v 1s7a 1v 1s6b 1se5 2s62 1v 2r65 1s66 1s214e 1s6d 1s6f 4s5d0 1s69 1v 1r66.61.78
1s3c0 2r3b3 1s3c0 1s2211 4v 2r64 1s65 2s69 6v 1r31.2044.37 1r31.2044.39 1r31.2044.31.30
1r31.2044.33 1r32.2044.33 1r31.2044.35 1r32.2044.35 1r33.2044.35 1r34.2044.35 1r31.2044.36
1r35.2044.36 1r31.2044.38 1r33.2044.38 1r35.2044.38 1r37.2044.38 1r31.2044 1s69 1r69.69
1r69.69.69 1r69.76 1s76 1r76.69 1r76.69.69 1r76.69.69.69 1r69.78 1s78 1r78.69 1r78.69.69 1s6c
2s63 1s6d 1s69 1r69.69 1r69.69.69 1r69.76 1s76 1r76.69 1r76.69.69 1r76.69.69.69 1r69.78 1s78
1r78.69 1r78.69.69 1s6c 2s63 1s6d 3v 1s2184 5v 1r30.2044.33 2v 4x 9cv 1r222b.222b
1r222b.222b.222b 1v 1r222e.222e 1r222e.222e.222e f8v 2s3008 ffv 16x bv 15x 9s31 1r31.30 1r31.31
1r31.32 1r31.33 1r31.34 1r31.35 1r31.36 1r31.37 1r31.38 1r31.39 1r32.30 1r28.31.29 1r28.32.29
1r28.33.29 1r28.34.29 1r28.35.29 1r28.36.29 1r28.37.29 1r28.38.29 1r28.39.29 1r28.31.30.29
1r28.31.31.29 1r28.31.32.29 1r28.31.33.29 1r28.31.34.29 1r28.31.35.29 1r28.31.36.29
1r28.31.37.29 1r28.31.38.29 1r28.31.39.29 1r28.32.30.29 14x 1r28.61.29 1r28.62.29 1r28.63.29
1r28.64.29 1r28.65.29 1r28.66.29 1r28.67.29 1r28.68.29 1r28.69.29 1r28.6a.29 1r28.6b.29
1r28.6c.29 1r28.6d.29 1r28.6e.29 1r28.6f.29 1r28.70.29 1r28.71.29 1r28.72.29 1r28.73.29
1r28.74.29 1r28.75.29 1r28.76.29 1r28.77.29 1r28.78.29 1r28.79.29 1r28.7a.29 1as61 1as61 1s30
521v 1r222b.222b.222b.222b 67v 1r3a.3a.3d 1r3d.3d 1r3d.3d.3d 65v 1r2add.338 97v 2x 8av 30s2c30
30v 1s2c61 1v 1s26b 1s1d7d 1s27d 2v 6p 1s251 1s271 1s250 1s252 1v 1s2c73 2v 1s2c76 6v 1s6a 1s76
2s23f 64p 7v 4p 3v 1s2cf3 1v 5x 2dv 1x 1v 5x 1v 2x 38v 7x 1s2d61 1v ex 18v 9x 7v 1x 7v 1x 7v 1x
7v 1x 7v 1x 7v 1x 7v 1x 7v 1x 7ev 22x 1av 1x 4v 1s6bcd 53v 1s9f9f cx 1s4e00 1s4e28 1s4e36 1s4e3f
1s4e59 1s4e85 1s4e8c 1s4ea0 1s4eba 1s513f 1s5165 1s516b 1s5182 1s5196 1s51ab 1s51e0 1s51f5
1s5200 1s529b 1s52f9 1s5315 1s531a 1s5338 1s5341 1s535c 1s5369 1s5382 1s53b6 1s53c8 1s53e3
1s56d7 1s571f 1s58eb 1s5902 1s590a 1s5915 1s5927 1s5973 1s5b50 1s5b80 1s5bf8 1s5c0f 1s5c22
1s5c38 1s5c6e 1s5c71 1s5ddb 1s5de5 1s5df1 1s5dfe 1s5e72 1s5e7a 1s5e7f 1s5ef4 1s5efe 1s5f0b
1s5f13 1s5f50 1s5f61 1s5f73 1s5fc3 1s6208 1s6236 1s624b 1s652f 1s6534 1s6587 1s6597 1s65a4
1s65b9 1s65e0 1s65e5 1s66f0 1s6708 1s6728 1s6b20 1s6b62 1s6b79 1s6bb3 1s6bcb 1s6bd4 1s6bdb
1s6c0f 1s6c14 1s6c34 1s706b 1s722a 1s7236 1s723b 1s723f 1s7247 1s7259 1s725b 1s72ac 1s7384
1s7389 1s74dc 1s74e6 1s7518 1s751f 1s7528 1s7530 1s758b 1s7592 1s7676 1s767d 1s76ae 1s76bf
1s76ee 1s77db 1s77e2 1s77f3 1s793a 1s79b8 1s79be 1s7a74 1s7acb 1s7af9 1s7c73 1s7cf8 1s7f36
1s7f51 1s7f8a 1s7fbd 1s8001 1s800c 1s8012 1s8033 1s807f 1s8089 1s81e3 1s81ea 1s81f3 1s81fc
1s820c 1s821b 1s821f 1s826e 1s8272 1s8278 1s864d 1s866b 1s8840 1s884c 1s8863 1s897e 1s898b
1s89d2 1s8a00 1s8c37 1s8c46 1s8c55 1s8c78 1s8c9d 1s8d64 1s8d70 1s8db3 1s8eab 1s8eca 1s8f9b
1s8fb0 1s8fb5 1s9091 1s9149 1s91c6 1s91cc 1s91d1 1s9577 1s9580 1s961c 1s96b6 1s96b9 1s96e8
1s9751 1s975e 1s9762 1s9769 1s97cb 1s97ed 1s97f3 1s9801 1s98a8 1s98db 1s98df 1s9996 1s9999
1s99ac 1s9aa8 1s9ad8 1s9adf 1s9b25 1s9b2f 1s9b32 1s9b3c 1s9b5a 1s9ce5 1s9e75 1s9e7f 1s9ea5
1s9ebb 1s9ec3 1s9ecd 1s9ed1 1s9ef9 1s9efd 1s9f0e 1s9f13 1s9f20 1s9f3b 1s9f4a 1s9f52 1s9f8d
1s9f9c 1s9fa0 2ax 1s20 1v 1s2e 33v 1s3012 1v 1s5341 2s5344 5v 1x 56v 2x 2v 1r20.3099 1r20.309a
2v 1r3088.308a 5fv 1r30b3.30c8 5x 2bv 1x 2s1100 1s11aa 1s1102 2s11ac 3s1103 6s11b0 1s111a 3s1106
1s1121 as1109 15s1161 1i 2s1114 2s11c7 1s11cc 1s11ce 1s11d3 1s11d7 1s11d9 1s111c 1s11dd 1s11df
2s111d 1s1120 2s1122 1s1127 1s1129 5s112b 1s1132 1s1136 1s1140 1s1147 1s114c 2s11f1 3s1157
2s1184 1s1188 2s1191 1s1194 1s119e 1s11a1 1x 2v 1s4e00 1s4e8c 1s4e09 1s56db 1s4e0a 1s4e2d 1s4e0b
1s7532 1s4e59 1s4e19 1s4e01 1s5929 1s5730 1s4eba 46v ax 10v 1r28.1100.29 1r28.1102.29
1r28.1103.29 1r28.1105.29 1r28.1106.29 1r28.1107.29 1r28.1109.29 1r28.110b.29 1r28.110c.29
1r28.110e.29 1r28.110f.29 1r28.1110.29 1r28.1111.29 1r28.1112.29 1r28.ac00.29 1r28.b098.29
1r28.b2e4.29 1r28.b77c.29 1r28.b9c8.29 1r28.bc14.29 1r28.c0ac.29 1r28.c544.29 1r28.c790.29
1r28.cc28.29 1r28.ce74.29 1r28.d0c0.29 1r28.d30c.29 1r28.d558.29 1r28.c8fc.29 1r28.c624.c804.29
1r28.c624.d6c4.29 1x 1r28.4e00.29 1r28.4e8c.29 1r28.4e09.29 1r28.56db.29 1r28.4e94.29
1r28.516d.29 1r28.4e03.29 1r28.516b.29 1r28.4e5d.29 1r28.5341.29 1r28.6708.29 1r28.706b.29
1r28.6c34.29 1r28.6728.29 1r28.91d1.29 1r28.571f.29 1r28.65e5.29 1r28.682a.29 1r28.6709.29
1r28.793e.29 1r28.540d.29 1r28.7279.29 1r28.8ca1.29 1r28.795d.29 1r28.52b4.29 1r28.4ee3.29
1r28.547c.29 1r28.5b66.29 1r28.76e3.29 1r28.4f01.29 1r28.8cc7.29 1r28.5354.29 1r28.796d.29
1r28.4f11.29 1r28.81ea.29 1r28.81f3.29 1s554f 1s5e7c 1s6587 1s7b8f 8v 1r70.74.65 1r32.31 1r32.32
1r32.33 1r32.34 1r32.35 1r32.36 1r32.37 1r32.38 1r32.39 1r33.30 1r33.31 1r33.32 1r33.33 1r33.34
1r33.35 1s1100 2s1102 3s1105 1s1109 2s110b 5s110e 1sac00 1sb098 1sb2e4 1sb77c 1sb9c8 1sbc14
1sc0ac 1sc544 1sc790 1scc28 1sce74 1sd0c0 1sd30c 1sd558 1rcc38.ace0 1rc8fc.c758 1sc6b0 1v 1s4e00
1s4e8c 1s4e09 1s56db 1s4e94 1s516d 1s4e03 1s516b 1s4e5d 1s5341 1s6708 1s706b 1s6c34 1s6728
1s91d1 1s571f 1s65e5 1s682a 1s6709 1s793e 1s540d 1s7279 1s8ca1 1s795d 1s52b4 1s79d8 1s7537
1s5973 1s9069 1s512a 1s5370 1s6ce8 1s9805 1s4f11 1s5199 1s6b63 1s4e0a 1s4e2d 1s4e0b 1s5de6
1s53f3 1s533b 1s5b97 1s5b66 1s76e3 1s4f01 1s8cc7 1s5354 1s591c 1r33.36 1r33.37 1r33.38 1r33.39
1r34.30 1r34.31 1r34.32 1r34.33 1r34.34 1r34.35 1r34.36 1r34.37 1r34.38 1r34.39 1r35.30
1r31.6708 1r32.6708 1r33.6708 1r34.6708 1r35.6708 1r36.6708 1r37.6708 1r38.6708 1r39.6708
1r31.30.6708 1r31.31.6708 1r31.32.6708 1r68.67 1r65.72.67 1r65.76 1r6c.74.64 1s30a2 1s30a4
1s30a6 1s30a8 2s30aa 1s30ad 1s30af 1s30b1 1s30b3 1s30b5 1s30b7 1s30b9 1s30bb 1s30bd 1s30bf
1s30c1 1s30c4 1s30c6 1s30c8 6s30ca 1s30d2 1s30d5 1s30d8 1s30db 5s30de 1s30e4 1s30e6 6s30e8
4s30ef 1r4ee4.548c 1r30a2.30d1.30fc.30c8 1r30a2.30eb.30d5.30a1 1r30a2.30f3.30da.30a2
1r30a2.30fc.30eb 1r30a4.30cb.30f3.30b0 1r30a4.30f3.30c1 1r30a6.30a9.30f3
1r30a8.30b9.30af.30fc.30c9 1r30a8.30fc.30ab.30fc 1r30aa.30f3.30b9 1r30aa.30fc.30e0
1r30ab.30a4.30ea 1r30ab.30e9.30c3.30c8 1r30ab.30ed.30ea.30fc 1r30ac.30ed.30f3 1r30ac.30f3.30de
1r30ae.30ac 1r30ae.30cb.30fc 1r30ad.30e5.30ea.30fc 1r30ae.30eb.30c0.30fc 1r30ad.30ed
1r30ad.30ed.30b0.30e9.30e0 1r30ad.30ed.30e1.30fc.30c8.30eb 1r30ad.30ed.30ef.30c3.30c8
1r30b0.30e9.30e0 1r30b0.30e9.30e0.30c8.30f3 1r30af.30eb.30bc.30a4.30ed 1r30af.30ed.30fc.30cd
1r30b1.30fc.30b9 1r30b3.30eb.30ca 1r30b3.30fc.30dd 1r30b5.30a4.30af.30eb
1r30b5.30f3.30c1.30fc.30e0 1r30b7.30ea.30f3.30b0 1r30bb.30f3.30c1 1r30bb.30f3.30c8
1r30c0.30fc.30b9 1r30c7.30b7 1r30c9.30eb 1r30c8.30f3 1r30ca.30ce 1r30ce.30c3.30c8
1r30cf.30a4.30c4 1r30d1.30fc.30bb.30f3.30c8 1r30d1.30fc.30c4 1r30d0.30fc.30ec.30eb
1r30d4.30a2.30b9.30c8.30eb 1r30d4.30af.30eb 1r30d4.30b3 1r30d3.30eb 1r30d5.30a1.30e9.30c3.30c9
1r30d5.30a3.30fc.30c8 1r30d6.30c3.30b7.30a7.30eb 1r30d5.30e9.30f3 1r30d8.30af.30bf.30fc.30eb
1r30da.30bd 1r30da.30cb.30d2 1r30d8.30eb.30c4 1r30da.30f3.30b9 1r30da.30fc.30b8 1r30d9.30fc.30bf
1r30dd.30a4.30f3.30c8 1r30dc.30eb.30c8 1r30db.30f3 1r30dd.30f3.30c9 1r30db.30fc.30eb
1r30db.30fc.30f3 1r30de.30a4.30af.30ed 1r30de.30a4.30eb 1r30de.30c3.30cf 1r30de.30eb.30af
1r30de.30f3.30b7.30e7.30f3 1r30df.30af.30ed.30f3 1r30df.30ea 1r30df.30ea.30d0.30fc.30eb
1r30e1.30ac 1r30e1.30ac.30c8.30f3 1r30e1.30fc.30c8.30eb 1r30e4.30fc.30c9 1r30e4.30fc.30eb
1r30e6.30a2.30f3 1r30ea.30c3.30c8.30eb 1r30ea.30e9 1r30eb.30d4.30fc 1r30eb.30fc.30d6.30eb
1r30ec.30e0 1r30ec.30f3.30c8.30b2.30f3 1r30ef.30c3.30c8 1r30.70b9 1r31.70b9 1r32.70b9 1r33.70b9
1r34.70b9 1r35.70b9 1r36.70b9 1r37.70b9 1r38.70b9 1r39.70b9 1r31.30.70b9 1r31.31.70b9
1r31.32.70b9 1r31.33.70b9 1r31.34.70b9 1r31.35.70b9 1r31.36.70b9 1r31.37.70b9 1r31.38.70b9
1r31.39.70b9 1r32.30.70b9 1r32.31.70b9 1r32.32.70b9 1r32.33.70b9 1r32.34.70b9 1r68.70.61 1r64.61
1r61.75 1r62.61.72 1r6f.76 1r70.63 1r64.6d 1r64.6d.32 1r64.6d.33 1r69.75 1r5e73.6210 1r662d.548c
1r5927.6b63 1r660e.6cbb 1r682a.5f0f.4f1a.793e 1r70.61 1r6e.61 1r3bc.61 1r6d.61 1r6b.61 1r6b.62
1r6d.62 1r67.62 1r63.61.6c 1r6b.63.61.6c 1r70.66 1r6e.66 1r3bc.66 1r3bc.67 1r6d.67 1r6b.67
1r68.7a 1r6b.68.7a 1r6d.68.7a 1r67.68.7a 1r74.68.7a 1r3bc.6c 1r6d.6c 1r64.6c 1r6b.6c 1r66.6d
1r6e.6d 1r3bc.6d 1r6d.6d 1r63.6d 1r6b.6d 1r6d.6d.32 1r63.6d.32 1r6d.32 1r6b.6d.32 1r6d.6d.33
1r63.6d.33 1r6d.33 1r6b.6d.33 1r6d.2215.73 1r6d.2215.73.32 1r70.61 1r6b.70.61 1r6d.70.61
1r67.70.61 1r72.61.64 1r72.61.64.2215.73 1r72.61.64.2215.73.32 1r70.73 1r6e.73 1r3bc.73 1r6d.73
1r70.76 1r6e.76 1r3bc.76 1r6d.76 1r6b.76 1r6d.76 1r70.77 1r6e.77 1r3bc.77 1r6d.77 1r6b.77
1r6d.77 1r6b.3c9 1r6d.3c9 1x 1r62.71 1r63.63 1r63.64 1r63.2215.6b.67 1x 1r64.62 1r67.79 1r68.61
1r68.70 1r69.6e 1r6b.6b 1r6b.6d 1r6b.74 1r6c.6d 1r6c.6e 1r6c.6f.67 1r6c.78 1r6d.62 1r6d.69.6c
1r6d.6f.6c 1r70.68 1x 1r70.70.6d 1r70.72 1r73.72 1r73.76 1r77.62 1r76.2215.6d 1r61.2215.6d
1r31.65e5 1r32.65e5 1r33.65e5 1r34.65e5 1r35.65e5 1r36.65e5 1r37.65e5 1r38.65e5 1r39.65e5
1r31.30.65e5 1r31.31.65e5 1r31.32.65e5 1r31.33.65e5 1r31.34.65e5 1r31.35.65e5 1r31.36.65e5
1r31.37.65e5 1r31.38.65e5 1r31.39.65e5 1r32.30.65e5 1r32.31.65e5 1r32.32.65e5 1r32.33.65e5
1r32.34.65e5 1r32.35.65e5 1r32.36.65e5 1r32.37.65e5 1r32.38.65e5 1r32.39.65e5 1r33.30.65e5
1r33.31.65e5 1r67.61.6c 708dv 3x 37v 9x 15cv 14x 2ep 12v 1cp 1s44a 1s44c 5av 8x 22v ep 2v 3ep
1sa76f 8v 4p 1s1d79 ap 3v 1sa78c 1v 1s265 2v 4p 2v 14p 1s266 1s25c 1s261 1s26c 1s26a 1v 1s29e
1s287 1s29d 1sab53 10p 1sa794 1s282 1s1d8e 4p 1s264 10p 1s19b 14x 1s73 1s63 1s66 1s71 1sa7f6 2v
1s127 1s153 33v 3x av 6x 38v 8x 46v 8x cv 6x 74v bx 1ev 3x 4ev 1x bv 4x 21v 1x 37v 9x ev 2x av
2x 67v 18x 1cv ax 6v 2x 6v 2x 6v 9x 7v 1x 7v 1x 2cv 1sa727 1sab37 1s26b 1sab52 9v 1s28d 2v 4x
50s13a0 2ev 2x av 6x 2ba4v cx 17v 4x 31v 2104x 1s8c48 1s66f4 1s8eca 1s8cc8 1s6ed1 1s4e32 1s53e5
2r9f9c 1s5951 1s91d1 1s5587 1s5948 1s61f6 1s7669 1s7f85 1s863f 1s87ba 1s88f8 1s908f 1s6a02
1s6d1b 1s70d9 1s73de 1s843d 1s916a 1s99f1 1s4e82 1s5375 1s6b04 1s721b 1s862d 1s9e1e 1s5d50
1s6feb 1s85cd 1s8964 1s62c9 1s81d8 1s881f 1s5eca 1s6717 1s6d6a 1s72fc 1s90ce 1s4f86 1s51b7
1s52de 1s64c4 1s6ad3 1s7210 1s76e7 1s8001 1s8606 1s865c 1s8def 1s9732 1s9b6f 1s9dfa 1s788c
1s797f 1s7da0 1s83c9 1s9304 1s9e7f 1s8ad6 1s58df 1s5f04 1s7c60 1s807e 1s7262 1s78ca 1s8cc2
1s96f7 1s58d8 1s5c62 1s6a13 1s6dda 1s6f0f 1s7d2f 1s7e37 1s964b 1s52d2 1s808b 1s51dc 1s51cc
1s7a1c 1s7dbe 1s83f1 1s9675 1s8b80 1s62cf 1s6a02 1s8afe 1s4e39 1s5be7 1s6012 1s7387 1s7570
1s5317 1s78fb 1s4fbf 1s5fa9 1s4e0d 1s6ccc 1s6578 1s7d22 1s53c3 1s585e 1s7701 1s8449 1s8aaa
1s6bba 1s8fb0 1s6c88 1s62fe 1s82e5 1s63a0 1s7565 1s4eae 1s5169 1s51c9 1s6881 1s7ce7 1s826f
1s8ad2 1s91cf 1s52f5 1s5442 1s5973 1s5eec 1s65c5 1s6ffe 1s792a 1s95ad 1s9a6a 1s9e97 1s9ece
1s529b 1s66c6 1s6b77 1s8f62 1s5e74 1s6190 1s6200 1s649a 1s6f23 1s7149 1s7489 1s79ca 1s7df4
1s806f 1s8f26 1s84ee 1s9023 1s934a 1s5217 1s52a3 1s54bd 1s70c8 1s88c2 1s8aaa 1s5ec9 1s5ff5
1s637b 1s6bae 1s7c3e 1s7375 1s4ee4 1s56f9 1s5be7 1s5dba 1s601c 1s73b2 1s7469 1s7f9a 1s8046
1s9234 1s96f6 1s9748 1s9818 1s4f8b 1s79ae 1s91b4 1s96b8 1s60e1 1s4e86 1s50da 1s5bee 1s5c3f
1s6599 1s6a02 1s71ce 1s7642 1s84fc 1s907c 1s9f8d 1s6688 1s962e 1s5289 1s677b 1s67f3 1s6d41
1s6e9c 1s7409 1s7559 1s786b 1s7d10 1s985e 1s516d 1s622e 1s9678 1s502b 1s5d19 1s6dea 1s8f2a
1s5f8b 1s6144 1s6817 1s7387 1s9686 1s5229 1s540f 1s5c65 1s6613 1s674e 1s68a8 1s6ce5 1s7406
1s75e2 1s7f79 1s88cf 1s88e1 1s91cc 1s96e2 1s533f 1s6eba 1s541d 1s71d0 1s7498 1s85fa 1s96a3
1s9c57 1s9e9f 1s6797 1s6dcb 1s81e8 1s7acb 1s7b20 1s7c92 1s72c0 1s7099 1s8b58 1s4ec0 1s8336
1s523a 1s5207 1s5ea6 1s62d3 1s7cd6 1s5b85 1s6d1e 1s66b4 1s8f3b 1s884c 1s964d 1s898b 1s5ed3
1s5140 1s55c0 2v 1s585a 1v 1s6674 2v 1s51de 1s732a 1s76ca 1s793c 1s795e 1s7965 1s798f 1s9756
1s7cbe 1s7fbd 1v 1s8612 1v 1s8af8 2v 1s9038 1s90fd 3v 1s98ef 1s98fc 1s9928 1s9db4 1s90de 1s96b7
1s4fae 1s50e7 1s514d 1s52c9 1s52e4 1s5351 1s559d 1s5606 1s5668 1s5840 1s58a8 1s5c64 1s5c6e
1s6094 1s6168 1s618e 1s61f2 1s654f 1s65e2 1s6691 1s6885 1s6d77 1s6e1a 1s6f22 1s716e 1s722b
1s7422 1s7891 1s793e 1s7949 1s7948 1s7950 1s7956 1s795d 2s798d 1s7a40 1s7a81 1s7bc0 1s7df4
1s7e09 1s7e41 1s7f72 1s8005 1s81ed 2r8279 1s8457 1s8910 1s8996 1s8b01 1s8b39 1s8cd3 1s8d08
1s8fb6 1s9038 1s96e3 1s97ff 1s983b 1s6075 1s242ee 1s8218 2x 1s4e26 1s51b5 1s5168 1s4f80 1s5145
1s5180 1s52c7 1s52fa 1s559d 1s5555 1s5599 1s55e2 1s585a 1s58b3 1s5944 1s5954 1s5a62 1s5b28
1s5ed2 1s5ed9 1s5f69 1s5fad 1s60d8 1s614e 1s6108 1s618e 1s6160 1s61f2 1s6234 1s63c4 1s641c
1s6452 1s6556 1s6674 1s6717 1s671b 1s6756 1s6b79 1s6bba 1s6d41 1s6edb 1s6ecb 1s6f22 1s701e
1s716e 1s77a7 1s7235 1s72af 1s732a 1s7471 1s7506 1s753b 1s761d 1s761f 1s76ca 1s76db 1s76f4
1s774a 1s7740 1s78cc 1s7ab1 1s7bc0 1s7c7b 1s7d5b 1s7df4 1s7f3e 1s8005 1s8352 1s83ef 1s8779
1s8941 1s8986 1s8996 1s8abf 1s8af8 1s8acb 1s8b01 1s8afe 1s8aed 1s8b39 1s8b8a 1s8d08 1s8f38
1s9072 1s9199 1s9276 1s967c 1s96e3 1s9756 1s97db 1s97ff 1s980b 1s983b 1s9b12 1s9f9c 1s2284a
1s22844 1s233d5 1s3b9d 1s4018 1s4039 1s25249 1s25cd0 1s27ed3 1s9f43 1s9f8e 26x 1r66.66 1r66.69
1r66.6c 1r66.66.69 1r66.66.6c 2r73.74 cx 1r574.576 1r574.565 1r574.56b 1r57e.576 1r574.56d 5x
1r5d9.5b4 1v 1r5f2.5b7 1s5e2 1s5d0 2s5d3 3s5db 1s5e8 1s5ea 1s2b 1r5e9.5c1 1r5e9.5c2
1r5e9.5bc.5c1 1r5e9.5bc.5c2 1r5d0.5b7 1r5d0.5b8 1r5d0.5bc 1r5d1.5bc 1r5d2.5bc 1r5d3.5bc
1r5d4.5bc 1r5d5.5bc 1r5d6.5bc 1x 1r5d8.5bc 1r5d9.5bc 1r5da.5bc 1r5db.5bc 1r5dc.5bc 1x 1r5de.5bc
1x 1r5e0.5bc 1r5e1.5bc 1x 1r5e3.5bc 1r5e4.5bc 1x 1r5e6.5bc 1r5e7.5bc 1r5e8.5bc 1r5e9.5bc
1r5ea.5bc 1r5d5.5b9 1r5d1.5bf 1r5db.5bf 1r5e4.5bf 1r5d0.5dc 2r671 4r67b 4r67e 4r680 4r67a 4r67f
4r679 4r6a4 4r6a6 4r684 4r683 4r686 4r687 2r68d 2r68c 2r68e 2r688 2r698 2r691 4r6a9 4r6af 4r6b3
4r6b1 2r6ba 4r6bb 2r6c0 4r6c1 4r6be 2r6d2 2r6d3 21v 4r6ad 2r6c7 2r6c6 2r6c8 1r6c7.674 2r6cb
2r6c5 2r6c9 4r6d0 2r649 2r626.627 2r626.6d5 2r626.648 2r626.6c7 2r626.6c6 2r626.6c8 3r626.6d0
3r626.649 4r6cc 1r626.62c 1r626.62d 1r626.645 1r626.649 1r626.64a 1r628.62c 1r628.62d 1r628.62e
1r628.645 1r628.649 1r628.64a 1r62a.62c 1r62a.62d 1r62a.62e 1r62a.645 1r62a.649 1r62a.64a
1r62b.62c 1r62b.645 1r62b.649 1r62b.64a 1r62c.62d 1r62c.645 1r62d.62c 1r62d.645 1r62e.62c
1r62e.62d 1r62e.645 1r633.62c 1r633.62d 1r633.62e 1r633.645 1r635.62d 1r635.645 1r636.62c
1r636.62d 1r636.62e 1r636.645 1r637.62d 1r637.645 1r638.645 1r639.62c 1r639.645 1r63a.62c
1r63a.645 1r641.62c 1r641.62d 1r641.62e 1r641.645 1r641.649 1r641.64a 1r642.62d 1r642.645
1r642.649 1r642.64a 1r643.627 1r643.62c 1r643.62d 1r643.62e 1r643.644 1r643.645 1r643.649
1r643.64a 1r644.62c 1r644.62d 1r644.62e 1r644.645 1r644.649 1r644.64a 1r645.62c 1r645.62d
1r645.62e 1r645.645 1r645.649 1r645.64a 1r646.62c 1r646.62d 1r646.62e 1r646.645 1r646.649
1r646.64a 1r647.62c 1r647.645 1r647.649 1r647.64a 1r64a.62c 1r64a.62d 1r64a.62e 1r64a.645
1r64a.649 1r64a.64a 1r630.670 1r631.670 1r649.670 1r20.64c.651 1r20.64d.651 1r20.64e.651
1r20.64f.651 1r20.650.651 1r20.651.670 1r626.631 1r626.632 1r626.645 1r626.646 1r626.649
1r626.64a 1r628.631 1r628.632 1r628.645 1r628.646 1r628.649 1r628.64a 1r62a.631 1r62a.632
1r62a.645 1r62a.646 1r62a.649 1r62a.64a 1r62b.631 1r62b.632 1r62b.645 1r62b.646 1r62b.649
1r62b.64a 1r641.649 1r641.64a 1r642.649 1r642.64a 1r643.627 1r643.644 1r643.645 1r643.649
1r643.64a 1r644.645 1r644.649 1r644.64a 1r645.627 1r645.645 1r646.631 1r646.632 1r646.645
1r646.646 1r646.649 1r646.64a 1r649.670 1r64a.631 1r64a.632 1r64a.645 1r64a.646 1r64a.649
1r64a.64a 1r626.62c 1r626.62d 1r626.62e 1r626.645 1r626.647 1r628.62c 1r628.62d 1r628.62e
1r628.645 1r628.647 1r62a.62c 1r62a.62d 1r62a.62e 1r62a.645 1r62a.647 1r62b.645 1r62c.62d
1r62c.645 1r62d.62c 1r62d.645 1r62e.62c 1r62e.645 1r633.62c 1r633.62d 1r633.62e 1r633.645
1r635.62d 1r635.62e 1r635.645 1r636.62c 1r636.62d 1r636.62e 1r636.645 1r637.62d 1r638.645
1r639.62c 1r639.645 1r63a.62c 1r63a.645 1r641.62c 1r641.62d 1r641.62e 1r641.645 1r642.62d
1r642.645 1r643.62c 1r643.62d 1r643.62e 1r643.644 1r643.645 1r644.62c 1r644.62d 1r644.62e
1r644.645 1r644.647 1r645.62c 1r645.62d 1r645.62e 1r645.645 1r646.62c 1r646.62d 1r646.62e
1r646.645 1r646.647 1r647.62c 1r647.645 1r647.670 1r64a.62c 1r64a.62d 1r64a.62e 1r64a.645
1r64a.647 1r626.645 1r626.647 1r628.645 1r628.647 1r62a.645 1r62a.647 1r62b.645 1r62b.647
1r633.645 1r633.647 1r634.645 1r634.647 1r643.644 1r643.645 1r644.645 1r646.645 1r646.647
1r64a.645 1r64a.647 1r640.64e.651 1r640.64f.651 1r640.650.651 1r637.649 1r637.64a 1r639.649
1r639.64a 1r63a.649 1r63a.64a 1r633.649 1r633.64a 1r634.649 1r634.64a 1r62d.649 1r62d.64a
1r62c.649 1r62c.64a 1r62e.649 1r62e.64a 1r635.649 1r635.64a 1r636.649 1r636.64a 1r634.62c
1r634.62d 1r634.62e 1r634.645 1r634.631 1r633.631 1r635.631 1r636.631 1r637.649 1r637.64a
1r639.649 1r639.64a 1r63a.649 1r63a.64a 1r633.649 1r633.64a 1r634.649 1r634.64a 1r62d.649
1r62d.64a 1r62c.649 1r62c.64a 1r62e.649 1r62e.64a 1r635.649 1r635.64a 1r636.649 1r636.64a
1r634.62c 1r634.62d 1r634.62e 1r634.645 1r634.631 1r633.631 1r635.631 1r636.631 1r634.62c
1r634.62d 1r634.62e 1r634.645 1r633.647 1r634.647 1r637.645 1r633.62c 1r633.62d 1r633.62e
1r634.62c 1r634.62d 1r634.62e 1r637.645 1r638.645 2r627.64b 12v 1r62a.62c.645 2r62a.62d.62c
1r62a.62d.645 1r62a.62e.645 1r62a.645.62c 1r62a.645.62d 1r62a.645.62e 2r62c.645.62d
1r62d.645.64a 1r62d.645.649 1r633.62d.62c 1r633.62c.62d 1r633.62c.649 2r633.645.62d
1r633.645.62c 2r633.645.645 2r635.62d.62d 1r635.645.645 2r634.62d.645 1r634.62c.64a
2r634.645.62e 2r634.645.645 1r636.62d.649 2r636.62e.645 2r637.645.62d 1r637.645.645
1r637.645.64a 1r639.62c.645 2r639.645.645 1r639.645.649 1r63a.645.645 1r63a.645.64a
1r63a.645.649 2r641.62e.645 1r642.645.62d 1r642.645.645 1r644.62d.645 1r644.62d.64a
1r644.62d.649 2r644.62c.62c 2r644.62e.645 2r644.645.62d 1r645.62d.62c 1r645.62d.645
1r645.62d.64a 1r645.62c.62d 1r645.62c.645 1r645.62e.62c 1r645.62e.645 2v 1r645.62c.62e
1r647.645.62c 1r647.645.645 1r646.62d.645 1r646.62d.649 2r646.62c.645 1r646.62c.649
1r646.645.64a 1r646.645.649 2r64a.645.645 1r628.62e.64a 1r62a.62c.64a 1r62a.62c.649
1r62a.62e.64a 1r62a.62e.649 1r62a.645.64a 1r62a.645.649 1r62c.645.64a 1r62c.62d.649
1r62c.645.649 1r633.62e.649 1r635.62d.64a 1r634.62d.64a 1r636.62d.64a 1r644.62c.64a
1r644.645.64a 1r64a.62d.64a 1r64a.62c.64a 1r64a.645.64a 1r645.645.64a 1r642.645.64a
1r646.62d.64a 1r642.645.62d 1r644.62d.645 1r639.645.64a 1r643.645.64a 1r646.62c.62d
1r645.62e.64a 1r644.62c.645 1r643.645.645 1r644.62c.645 1r646.62c.62d 1r62c.62d.64a
1r62d.62c.64a 1r645.62c.64a 1r641.645.64a 1r628.62d.64a 1r643.645.645 1r639.62c.645
1r635.645.645 1r633.62e.64a 1r646.62c.64a 8v 20x 1r635.644.6d2 1r642.644.6d2 1r627.644.644.647
1r627.643.628.631 1r645.62d.645.62f 1r635.644.639.645 1r631.633.648.644 1r639.644.64a.647
1r648.633.644.645 1r635.644.649
1r635.644.649.20.627.644.644.647.20.639.644.64a.647.20.648.633.644.645
1r62c.644.20.62c.644.627.644.647 1r631.6cc.627.644 3v 10i 1s2c 1s3001 1x 2s3a 1s21 1s3f 2s3016
7x 10v 1x 1s2014 1s2013 2r5f 2s28 1s7b 1s7d 2s3014 2s3010 2s300a 2s3008 4s300c 2v 1s5b 1s5d
4r20.305 3r5f 1s2c 1s3001 2x 1s3b 1s3a 1s3f 1s21 1s2014 2s28 1s7b 1s7d 2s3014 1s23 1s26 2s2a
1s2d 1s3c 1s3e 1s3d 1x 1s5c 2s24 1s40 4x 1r20.64b 1r640.64b 1r20.64c 1v 1r20.64d 1x 1r20.64e
1r640.64e 1r20.64f 1r640.64f 1r20.650 1r640.650 1r20.651 1r640.651 1r20.652 1r640.652 2s621
2s622 2s623 2s624 2s625 3r626 2r627 4r628 2r629 4r62a 4r62b 4r62c 4r62d 4r62e 2r62f 2r630 2r631
2r632 4r633 4r634 4r635 4r636 4r637 4r638 4r639 4r63a 4r641 4r642 4r643 4r644 4r645 4r646 4r647
2r648 2r649 4r64a 2r644.622 2r644.623 2r644.625 2r644.627 2x 1i 1x 20s21 1as61 24s5b 2s2985 1s2e
2s300c 1s3001 1s30fb 1s30f2 1s30a1 1s30a3 1s30a5 1s30a7 1s30a9 1s30e3 1s30e5 1s30e7 1s30c3
1s30fc 1s30a2 1s30a4 1s30a6 1s30a8 2s30aa 1s30ad 1s30af 1s30b1 1s30b3 1s30b5 1s30b7 1s30b9
1s30bb 1s30bd 1s30bf 1s30c1 1s30c4 1s30c6 1s30c8 6s30ca 1s30d2 1s30d5 1s30d8 1s30db 5s30de
1s30e4 1s30e6 6s30e8 1s30ef 1s30f3 2s3099 1i 2s1100 1s11aa 1s1102 2s11ac 3s1103 6s11b0 1s111a
3s1106 1s1121 as1109 3x 6s1161 2x 6s1167 2x 6s116d 2x 3s1173 3x 2sa2 1sac 1r20.304 1sa6 1sa5
1s20a9 1x 1s2502 4s2190 1s25a0 1s25cb 11x cv 1x 1av 1x 13v 1x 2v 1x fv 2x ev 22x 7bv 5x 3v 4x
2dv 3x 58v 1x dv 3x 1v 2fx 2ev 82x 1dv 3x 31v fx 1cv 4x 24v 9x 1ev 5x 2bv 5x 1ev 1x 25v 4x ev
2ax 28s10428 76v 2x av 6x 24s104d8 4x 24v 4x 28v 8x 34v bx 1v bs10597 1x fs105a3 1x 7s105b3 1x
2s105bb 1x bv 1x fv 1x 7v 1x 2v 3x 34v cx 137v 9x 16v ax 8v 18x 1v 2s2d0 1se6 1s299 1s253 1x
1s2a3 1sab66 1s2a5 1s2a4 2s256 1s1d91 1s258 1s25e 1s2a9 1s264 1s262 1s260 1s29b 1s127 1s29c
1s267 1s284 2s2aa 1s26c 1s1df04 1sa78e 1s26e 1s1df05 1s28e 1s1df06 1sf8 2s276 1s71 1s27a 1s1df08
2s27d 1s280 1s2a8 1s2a6 1sab67 1s2a7 1s288 1s2c71 1x 1s28f 2s2a1 1s298 3s1c0 1s1df0a 1s1df1e 45x
6v 2x 1v 1x 2cv 1x 2v 3x 1v 2x 17v 1x 48v 8x 9v 30x 13v 1x 2v 5x 21v 3x 1bv 5x 1bv 26x 38v 4x
14v 2x 32v 1x 2v 5x 8v 1x 3v 1x 1dv 2x 3v 4x av 7x 9v 7x 40v 20x 27v 4x cv 9x 36v 3x 1dv 2x 1bv
5x 1av 7x 4v cx 7v 50x 49v 37x 33s10cc0 dx 33v 7x 2ev 8x av 6x 10v 16s10d70 3x 1dv 8x 2v d0x 1fv
1x 2av 1x 3v 2x 2v 10x 6v 8x 9v 21x 2ev 8x 2av 16x 1av 26x 1cv 14x 17v 9x 4ev 4x 24v 9x 3ev 1x
5v dx 19v 7x av 6x 35v 1x 12v 8x 27v 9x 60v 1x 14v bx 12v 1x 2fv 3ex 7v 1x 1v 1x 4v 1x fv 1x bv
6x 3bv 5x av 6x 4v 1x 8v 2x 2v 2x 16v 1x 7v 1x 2v 1x 5v 1x av 2x 2v 2x 3v 2x 1v 6x 1v 5x 7v 2x
7v 3x 5v bx av 1x 1v 2x 1v 1x 26v 1x av 1x 1v 2x 1v 1x 4v 1x av 1x 2v 8x 2v 1dx 5cv 1x 5v 1ex
48v 8x av a6x 36v 2x 26v 22x 45v bx av 6x dv 13x 3av 6x av 6x 14v 1cx 1bv 2x fv 4x 17v b9x 3cv
64x 20s118c0 33v cx 8v 2x 1v 2x 8v 1x 2v 1x 1ev 1x 2v 2x cv 9x av 46x 8v 2x 2ev 2x bv 1bx 48v 8x
53v dx 49v 7x av 56x 8v 58x 22v ex av 6x 9v 1x 2dv 1x ev ax 1dv 3x 20v 2x 16v 1x ev 49x 7v 1x 2v
1x 2cv 3x 1v 1x 2v 1x 9v 8x av 6x 6v 1x 2v 1x 25v 1x 2v 1x 6v 7x av 6x 2cv 4x av f6x 19v 7x 11v
1x 29v 3x 1dv 55x 1v fx 32v dx 39bv 66x 6fv 1x 5v bx c4v a4cx 63v dx 430v 10x 16v ax f9bv 5x
247v 1ab9x 3av 6c6x 239v 7x 1fv 1x av 4x 51v 1x av 6x 1ev 2x 6v ax 46v ax av 1x 7v 1x 15v 5x 13v
1b0x 3av c6x 20s16e60 3bv 5x 19s16ebb 2x 19v 2cx 4bv 4x 39v 7x 11v 40x 5v bx 7v 9x 1cd6v 29x 20v
61x 73v 21fdx 4v 1x 7v 1x 2v 1x 123v fx 1v 1dx 3v 2x 1v ex 4v 8x 18cv 904x 6bv 5x dv 3x 9v 7x av
2x 4v 4i f5cx d6v 1as61 as30 3v 3x 1b4v 6x 17v fx 11v fx 2ev 2x 17v 9x 74v 3cx f6v ax 27v 2x 35v
1r1d157.1d165 1r1d158.1d165 1r1d158.1d165.1d16e 1r1d158.1d165.1d16f 1r1d158.1d165.1d170
1r1d158.1d165.1d171 1r1d158.1d165.1d172 ev 8i 40v 1r1d1b9.1d165 1r1d1ba.1d165
1r1d1b9.1d165.1d16e 1r1d1ba.1d165.1d16e 1r1d1b9.1d165.1d16f 1r1d1ba.1d165.1d16f 2av 15x 46v 7ax
14v cx 14v cx 57v 9x 19v 87x 1as61 1as61 1as61 7s61 1x 12s69 1as61 1as61 1s61 1x 2s63 2x 1s67 2x
2s6a 2x 4s6e 1x 8s73 4s61 1x 1s66 1x 7s68 1x bs70 1as61 1as61 2s61 1x 4s64 2x 8s6a 1x 7s73 1x
1as61 2s61 1x 4s64 1x 5s69 1x 1s6f 3x 7s73 1x 1as61 1as61 1as61 1as61 1as61 1as61 1as61 1as61
1as61 1as61 1as61 1as61 1as61 1s131 1s237 2x 11s3b1 1s3b8 7s3c3 1s2207 11s3b1 2r3c3 6s3c4 1s2202
1s3b5 1s3b8 1s3ba 1s3c6 1s3c1 1s3c0 11s3b1 1s3b8 7s3c3 1s2207 11s3b1 2r3c3 6s3c4 1s2202 1s3b5
1s3b8 1s3ba 1s3c6 1s3c1 1s3c0 11s3b1 1s3b8 7s3c3 1s2207 11s3b1 2r3c3 6s3c4 1s2202 1s3b5 1s3b8
1s3ba 1s3c6 1s3c1 1s3c0 11s3b1 1s3b8 7s3c3 1s2207 11s3b1 2r3c3 6s3c4 1s2202 1s3b5 1s3b8 1s3ba
1s3c6 1s3c1 1s3c0 11s3b1 1s3b8 7s3c3 1s2207 11s3b1 2r3c3 6s3c4 1s2202 1s3b5 1s3b8 1s3ba 1s3c6
1s3c1 1s3c0 2r3dd 2x as30 as30 as30 as30 as30 28cv fx 5v 1x fv 450x 1fv 6x 6v d5x 7v 1x 11v 2x
7v 1x 2v 1x 5v 5x 9s430 3s43a bs43e 1s44b 2s44d 1sa689 1s4d9 1s456 1s458 1s4e9 1s4af 1s4cf 9s430
2s43a 2s43e 1s441 6s443 2s44a 1s491 1s456 1s455 1s45f 1s4ab 1sa651 1s4b1 21x 1v 70x 2dv 3x ev 2x
av 4x 2v 140x 1fv 11x 3av 5x 1v 1d0x 2av d6x 2bv 4x 1v c0x 1fv 1x 16v 8x 2v e0x 7v 1x 4v 1x 2v
1x fv 1x c5v 2x 10v 29x 22s1e922 2av 4x av 4x 2v 311x 44v 4cx 3dv c2x 2s627 1s62c 1s62f 1x 1s648
1s632 1s62d 1s637 1s64a 4s643 1s633 1s639 1s641 1s635 1s642 1s631 1s634 2s62a 1s62e 1s630 1s636
1s638 1s63a 1s66e 1s6ba 1s6a1 1s66f 1x 1s628 1s62c 1x 1s647 2x 1s62d 1x 1s64a 4s643 1s633 1s639
1s641 1s635 1s642 1x 1s634 2s62a 1s62e 1x 1s636 1x 1s63a 6x 1s62c 4x 1s62d 1x 1s64a 1x 1s644 1x
1s646 1s633 1s639 1x 1s635 1s642 1x 1s634 2x 1s62e 1x 1s636 1x 1s63a 1x 1s6ba 1x 1s66f 1x 1s628
1s62c 1x 1s647 2x 1s62d 1s637 1s64a 1s643 1x 2s645 1s633 1s639 1s641 1s635 1s642 1x 1s634 2s62a
1s62e 1x 1s636 1s638 1s63a 1s66e 1x 1s6a1 1x 2s627 1s62c 1s62f 2s647 1s632 1s62d 1s637 1s64a 1x
3s644 1s633 1s639 1s641 1s635 1s642 1s631 1s634 2s62a 1s62e 1s630 1s636 1s638 1s63a 5x 1s628
1s62c 1s62f 1x 1s648 1s632 1s62d 1s637 1s64a 1x 3s644 1s633 1s639 1s641 1s635 1s642 1s631 1s634
2s62a 1s62e 1s630 1s636 1s638 1s63a 34x 2v 10ex 2cv 4x 64v cx fv 2x fv 1x fv 1x 25v bx 1r30.2c
1r31.2c 1r32.2c 1r33.2c 1r34.2c 1r35.2c 1r36.2c 1r37.2c 1r38.2c 1r39.2c 5v 1r28.61.29 1r28.62.29
1r28.63.29 1r28.64.29 1r28.65.29 1r28.66.29 1r28.67.29 1r28.68.29 1r28.69.29 1r28.6a.29
1r28.6b.29 1r28.6c.29 1r28.6d.29 1r28.6e.29 1r28.6f.29 1r28.70.29 1r28.71.29 1r28.72.29
1r28.73.29 1r28.74.29 1r28.75.29 1r28.76.29 1r28.77.29 1r28.78.29 1r28.79.29 1r28.7a.29
1r3014.73.3015 1s63 1s72 1r63.64 1r77.7a 1v 1as61 1r68.76 1r6d.76 1r73.64 1r73.73 1r70.70.76
1r77.63 1av 1r6d.63 1r6d.64 1r6d.72 23v 1r64.6a 1dv 38x 1av 1r307b.304b 1r30b3.30b3 1s30b5 dx
1s624b 1s5b57 1s53cc 1s30c7 1s4e8c 1s591a 1s89e3 1s5929 1s4ea4 1s6620 1s7121 1s6599 1s524d
1s5f8c 1s518d 1s65b0 1s521d 1s7d42 1s751f 1s8ca9 1s58f0 1s5439 1s6f14 1s6295 1s6355 1s4e00
1s4e09 1s904a 1s5de6 1s4e2d 1s53f3 1s6307 1s8d70 1s6253 1s7981 1s7a7a 1s5408 1s6e80 1s6709
1s6708 1s7533 1s5272 1s55b6 1s914d 4x 1r3014.672c.3015 1r3014.4e09.3015 1r3014.4e8c.3015
1r3014.5b89.3015 1r3014.70b9.3015 1r3014.6253.3015 1r3014.76d7.3015 1r3014.52dd.3015
1r3014.6557.3015 7x 1s5f97 1s53ef ex 6v 9ax 3d9v 3x 11v 3x dv 3x dav 6x cv 4x 1v fx cv 4x 38v 8x
av 6x 28v 8x 1ev 2x cv 4x 2v ex 9v 27x 158v 8x ev 2x dv 3x bv 3x 39v 1x 1v 4x 10v 2x cv 4x av 7x
93v 1x 5cv as30 1v 405x a6e0v 20x 111ev 2x 168ev 2x 1d31v fx 26ev 9a2x 1s4e3d 1s4e38 1s4e41
1s20122 1s4f60 1s4fae 1s4fbb 1s5002 1s507a 1s5099 1s50e7 1s50cf 1s349e 1s2063a 1s514d 1s5154
1s5164 1s5177 1s2051c 1s34b9 1s5167 1s518d 1s2054b 1s5197 1s51a4 1s4ecc 1s51ac 1s51b5 1s291df
1s51f5 1s5203 1s34df 1s523b 1s5246 1s5272 1s5277 1s3515 1s52c7 1s52c9 1s52e4 1s52fa 2s5305
1s5317 1s5349 1s5351 1s535a 1s5373 1s537d 3r537f 1s20a2c 1s7070 1s53ca 1s53df 1s20b63 1s53eb
1s53f1 1s5406 1s549e 1s5438 1s5448 1s5468 1s54a2 1s54f6 1s5510 1s5553 1s5563 2r5584 1s5599
1s55ab 1s55b3 1s55c2 1s5716 1s5606 1s5717 1s5651 1s5674 1s5207 1s58ee 1s57ce 1s57f4 1s580d
1s578b 1s5832 1s5831 1s58ac 1s214e4 1s58f2 1s58f7 1s5906 1s591a 1s5922 1s5962 1s216a8 1s216ea
1s59ec 1s5a1b 1s5a27 1s59d8 1s5a66 1s36ee 1s36fc 1s5b08 2r5b3e 1s219c8 1s5bc3 1s5bd8 1s5be7
1s5bf3 1s21b18 1s5bff 1s5c06 1s5f53 1s5c22 1s3781 1s5c60 1s5c6e 1s5cc0 1s5c8d 1s21de4 1s5d43
1s21de6 1s5d6e 1s5d6b 1s5d7c 2s5de1 1s382f 1s5dfd 1s5e28 1s5e3d 1s5e69 1s3862 1s22183 1s387c
1s5eb0 1s5eb3 1s5eb6 1s5eca 1s2a392 1s5efe 2r22331 1s8201 2r5f22 1s38c7 1s232b8 1s261da 1s5f62
1s5f6b 1s38e3 1s5f9a 1s5fcd 1s5fd7 1s5ff9 1s6081 1s393a 1s391c 1s6094 1s226d4 1s60c7 1s6148
1s614c 1s614e 1s614c 1s617a 1s618e 1s61b2 1s61a4 1s61af 1s61de 1s61f2 1s61f6 1s6210 1s621b
1s625d 1s62b1 1s62d4 1s6350 1s22b0c 1s633d 1s62fc 1s6368 1s6383 1s63e4 1s22bf1 1s6422 1s63c5
1s63a9 1s3a2e 1s6469 1s647e 1s649d 1s6477 1s3a6c 1s654f 1s656c 1s2300a 1s65e3 1s66f8 1s6649
1s3b19 1s6691 1s3b08 1s3ae4 1s5192 1s5195 1s6700 1s669c 1s80ad 1s43d9 1s6717 1s671b 1s6721
1s675e 1s6753 1s233c3 1s3b49 1s67fa 1s6785 1s6852 1s6885 1s2346d 1s688e 1s681f 1s6914 1s3b9d
1s6942 1s69a3 1s69ea 1s6aa8 1s236a3 1s6adb 1s3c18 1s6b21 1s238a7 1s6b54 1s3c4e 1s6b72 1s6b9f
2s6bba 1s23a8d 1s21d0b 1s23afa 1s6c4e 1s23cbc 1s6cbf 1s6ccd 1s6c67 1s6d16 1s6d3e 1s6d77 1s6d41
1s6d69 1s6d78 1s6d85 1s23d1e 1s6d34 1s6e2f 1s6e6e 1s3d33 1s6ecb 1s6ec7 1s23ed1 1s6df9 1s6f6e
1s23f5e 1s23f8e 1s6fc6 1s7039 1s701e 1s701b 1s3d96 1s704a 1s707d 1s7077 1s70ad 1s20525 1s7145
1s24263 1s719c 1s243ab 1s7228 1s7235 1s7250 1s24608 1s7280 1s7295 1s24735 1s24814 1s737a 1s738b
1s3eac 1s73a5 2r3eb8 1s7447 1s745c 1s7471 1s7485 1s74ca 1s3f1b 1s7524 1s24c36 1s753e 1s24c92
1s7570 1s2219f 1s7610 1s24fa1 1s24fb8 1s25044 1s3ffc 1s4008 1s76f4 1s250f3 1s250f2 1s25119
1s25133 2s771e 1s771f 1s774a 1s4039 1s778b 1s4046 1s4096 1s2541d 1s784e 1s788c 1s78cc 1s40e3
1s25626 1s7956 1s2569a 1s256c5 1s798f 1s79eb 1s412f 1s7a40 1s7a4a 1s7a4f 1s2597c 2r25aa7 1s7aee
1s4202 1s25bab 1s7bc6 1s7bc9 1s4227 1s25c80 1s7cd2 1s42a0 1s7ce8 1s7ce3 1s7d00 1s25f86 1s7d63
1s4301 1s7dc7 1s7e02 1s7e45 1s4334 1s26228 1s26247 1s4359 1s262d9 1s7f7a 1s2633e 1s7f95 1s7ffa
1s8005 1s264da 1s26523 1s8060 1s265a8 1s8070 1s2335f 1s43d5 1s80b2 1s8103 1s440b 1s813e 1s5ab5
1s267a7 1s267b5 1s23393 1s2339c 1s8201 1s8204 1s8f9e 1s446b 1s8291 1s828b 1s829d 1s52b3 1s82b1
1s82b3 1s82bd 1s82e6 1s26b3c 1s82e5 1s831d 1s8363 1s83ad 1s8323 1s83bd 1s83e7 1s8457 1s8353
1s83ca 1s83cc 1s83dc 1s26c36 1s26d6b 1s26cd5 1s452b 1s84f1 1s84f3 1s8516 1s273ca 1s8564 1s26f2c
1s455d 1s4561 1s26fb1 1s270d2 1s456b 1s8650 1s865c 1s8667 1s8669 1s86a9 1s8688 1s870e 1s86e2
1s8779 1s8728 1s876b 1s8786 1s45d7 1s87e1 1s8801 1s45f9 1s8860 1s8863 1s27667 1s88d7 1s88de
1s4635 1s88fa 1s34bb 1s278ae 1s27966 1s46be 1s46c7 1s8aa0 1s8aed 1s8b8a 1s8c55 1s27ca8 1s8cab
1s8cc1 1s8d1b 1s8d77 1s27f2f 1s20804 1s8dcb 1s8dbc 1s8df0 1s208de 1s8ed4 1s8f38 1s285d2 1s285ed
1s9094 1s90f1 1s9111 1s2872e 1s911b 1s9238 2s92d7 1s927c 1s93f9 1s9415 1s28bfa 1s958b 1s4995
1s95b7 1s28d77 1s49e6 1s96c3 1s5db2 1s9723 1s29145 1s2921a 1s4a6e 1s4a76 1s97e0 1s2940a 1s4ab2
1s29496 2r980b 1s9829 1s295b6 1s98e2 1s4b33 1s9929 1s99a7 1s99c2 1s99fe 1s4bce 1s29b30 1s9b12
1s9c40 1s9cfd 1s4cce 1s4ced 1s9d67 1s2a0ce 1s4cf8 1s2a105 1s2a20e 1s2a291 1s9ebb 1s4d56 1s9ef9
1s9efe 1s9f05 1s9f0f 1s9f16 1s9f3b 1s2a600 5e2x 134bv 5x 212av acc86x f0i 2fe10x"

/-- What becomes of a character. -/
def useOf (c : Char) : Use :=
  match (rules.of? c).getD .refused with
  | .kept => .kept
  | .dropped => .dropped
  | .refused => .refused
  | .shifted start target => .mapped [Char.ofNat (target + (c.toNat - start))]
  | .paired start =>
    if (c.toNat - start) % 2 = 0 then .mapped [Char.ofNat (c.toNat + 1)] else .kept
  | .replaced cs => .mapped cs

/-- The characters of a name after the mapping. -/
def mapped? : List Char → Option (List Char)
  | [] => some []
  | c :: rest =>
    match useOf c with
    | .kept => (mapped? rest).map (c :: ·)
    | .dropped => mapped? rest
    | .refused => none
    | .mapped cs => (mapped? rest).map (cs ++ ·)

end PoolScaler.Web.Idna
