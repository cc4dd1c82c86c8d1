/-!
Properties that a character has or has not, each with its names and its table.
-/

namespace StyleGuide.CharSet

/-- The properties with a table. -/
def binaryTables : List (List String × List String) := [
  (["Alpha", "Alphabetic"], [
    "1t.q 6.q 1b a 4 5.n 1.v 1.cq 4.c e.5 7 1 2e t.i 1.2 2.4 1 6 1.3 1 1.k 1.2b 1.3v 8.4m 1.12",
    "2 6.15 13.e 1 1.2*2 1 8.r 4.4 t.b 5.1k 1.7 e.2u 1.8 4.8 4.3 a.3 2 g.1c d.2t o.x 9.2 4 5.o",
    "2.j j.p 7.b 5.o 1.6 8 8.16 a.c 3.7 6.24 1.g 1.3 4.f d.j 1.8 2.2 2.m 1.7 1 3.4 3.8 2.2*2 1",
    "8 4.2 1.5 c.2 a 4.3 1.6 4.2 2.m 1.7 1.2*3 4.5 4.2 2.2 4 7.4 1 h.6 b.3 1.9 1.3 1.m 1.7 1.2",
    "1.5 3.9 1.3 1.2 3 f.4 l.4 4.3 1.8 2.2 2.m 1.7 1.2 1.5 3.8 2.2*2 9.2 4.2 1.5 d g.2 1.6 3.3",
    "1.4 3.2 1 1.2 3.2 3.3 3.c 4.5 3.3 1.3 3 6 14.d 1.3 1.n 1.g 3.8 1.3*2 8.2 1.3 2 2.4 s.4 1.8",
    "1.3 1.n 1.a 1.5 3.8 1.3*2 8.2 6.2 1.4 d.3 c.d 1.3 1.15 2.8 1.3*2 1 5.4 7.5 m.6 1.3 1.i 3.o",
    "1.9 1 2.7 8.6 1 1.8 i.2 d.1m 5.7 6 1f.2 1 1.5 1.o 1 1.j 1.3 2.5 1 6 e.4 w 1r.8 1.10 4.j",
    "4.g 1.10 1v.1j 1 2.5 g.1s a.4 2.12 1 5 2.17 1.99 1.4 2.7 1 1.4 2.15 1.4 2.x 1.4 2.7 1 1.4",
    "2.f 1.1l 1.4 2.1v 11.g g.2e 2.6 3.h8 2.h 1.q 5.23 3.b 7.k b.l c.k c.d 1.3 1.2 c.1g 2.j e 4",
    "1v.2h 7.17 5.1y a.v 1.c 4.9 n.u 2.5 b.18 4.q 1i.s 4.1r 2.k 1e n.2 b.3 1d.1g 1.f 1.8 1f.16",
    "2.4 a.18 1.b e.1j m.3 a.10 2.b 5.17 2.3 15.4 1.6 1.2 3 5.5c j.y b.7q 2.6 2.12 2.6 2.8 1*3",
    "1.v 2.1h 1.7 1 3.3 1.7 3.4 2.6 4.d 5.3 1.7 38 d g.d 2t 4 2.a 1 3.5 6 1*2 1.4 1.b 2.4 5.5 4",
    "h.15 ml.1g 1ee.6d 6.4 3.2 c.12 1 5 2.1k 7 g.n 9.7 1.7*7 1.w 1b d1.3 p.9 7.5 2.5 4.2e 6.3",
    "1.2i 1.4 5.17 1.2m h.w 1c.g e8.534 1s.h3h 1v.1a 2.7h 3.g a.2 k.1b 5.8 3.35 13.9 2.2v 2.1v",
    "2.2 1 1.8 l.k 1.x o.1g c.1w 1 18.6 3 1.3 a.x 5.z d.t 3.1f 1.c f g.g a.5 1.1j 9.e i.n 3.1x",
    "1*2 o.3 2.g 2.4 b.6 2.6*2 9.7 1.7 1.17 1.e 6.3f l.8mc c.n 4.1d 6is.a6 2.2y 12.7 c.5 5.c",
    "1.d 1.5 1 1.2*2 1.30 x.a3 i.1s 2.1i 14.c 38.5 1.3r 10.q 6.q b.2h 3.6 2.6*2 2.3 z.c 1.q 1.j",
    "1.2 1.f 2.e y.3f 1x.1h 7f.t 3.1d 1b.w d.u 5.17 5.u 2.10 4.8 1.5 16.4e i.10 4.10 4.14 8.1g",
    "c.b 1.f 1.7 1.2 1.b 1.f 1.7 1.2 3.1g c.8n 9.m a.8 o.6 1.16 1.9 1x.6 2 1.18 1.2 3 2.n a.n",
    "9.v 1t.j 1.2 a.m a.q 1y.1k 6.2 1s.4 1.2 5.8 1.3 1.t 16.t 3.t z.8 1.s r.1i a.m a.j d.i",
    "32.21 1j.1f d.1f d.14 y.s 3 5.n 6y.16 1.2 3.2 g.3 1j 3.t a 8.m 16.i 1a.l r.n 9.1y 17.5",
    "a.1l 9 d.p n.1f h.4 8.z 3 9.1s 1.4 9.2 a 1 z.i 1.y 2 6.4 1q.7 1 1.4 1.f 1.a 7.1l n.4 1.8",
    "2.2 2.m 1.7 1.2 1.5 3.8 2.2*2 3 6 5.7 s.a 1 2 1.12 1.a 1 2 1.4 1.2 3 1 18.1u 1.3 1.4 k.3",
    "u.1u 2.2 1 54.1i 2.7 p.6 y.1r 1 3 1n.1i 2 1z.r 2.e l.7 55.1l 2v.1s v.8 2 2.8 1.2 1.u 1.2",
    "2.2 2.4 2l.8 2.1a 2.6 1 1.2 r.1f 2.a h.20 5 i.21 5j.x v.9 1.19 1.7 1 1d.u 2.m 1.e 21.7 1.2",
    "1.18 3 1.2 1.3 1 2.2 o.6 1.2 1.11 1.2 1.4 1 93.n 9.h 1.15 3.3 33 27.pm 2u.33 h.5g 218.2p",
    "f.ts h.6 p.32z 5.g7 5a1.1b 1ch.ft 7.v h.27 h.u i.1c g.4 v.l 5.j c0.19 5v.1s 3k.23 4.1l 7.h",
    "1s.2 1 c.2 e.4qg 8.ye 15.a 6w7.4 1.7 1.2 1.83 f t.3 2 e.4 8.b0 1s4.2z 5.d 3.9 7.a 4 4m9.2d",
    "1.1z 1.2 2 2.2 2.4 1.c 1 1.7 1.1t 1.4 2.8 1.7 1.s 1.4 1.5 1 3.7 1.9g 2.p 1.p 1.v 1.p 1.v",
    "1.p 1.v 1.p 1.v 1.p 1.8 1f8.v 6.6 5x.7 1.h 2.7 1.2 1.5 5.1q x 34.19 a.7 g 8x.u i.18 dg.s",
    "6c.u 2 dr.7 1.4 1.2 1.f 1.5h 1n.1w 3*2 xg.4 1.r 1.2 1 2 1.a 1.4 1*2 6 4 1*2 1.3 1.2 1 2",
    "1*4 1.2 1 2.4 1.7 1.4*2 1 1.a 1.h 5.3 1.5 1.h hg.q 6.q*2 2uu.wyo w.37e 6.66 2.4g2 e.5rl",
    "f.ha 1wi.f2 15u.3t7 5.38g"]),
  (["AHex", "ASCII_Hex_Digit"], ["1c.a 7.6 q.6"]),
  (["Bidi_C", "Bidi_Control"], ["17g 54h.2 q.5 1j.4"]),
  (["Bidi_M", "Bidi_Mirrored"], [
    "14.2 i 1 s 1 t 1 19 f 2v2.4 1gd.2 1wc.2 a.2 1i.2 e.2 4x 5c.4 3.6 3 3.2 3.4 1.4 1*2 4.9 5",
    "1.i 5.4 9.2 1 1.8 1.w 2.4 5 9.2 2.j 5.2 9.5 2.2 4.o 2.g 8.4 k.2 7.2 u5.e 22 2.4 1.2 1.3",
    "5.4 5.3 3.e b7.m 2.6 1.e 8 7.6 3 4.5 1.2 2.5 4 1.3 2.2 a.6 2.2 c.j 1.4 2 1 2 1.4 5.2 6.3",
    "o.2 b.2 4.4 1.2 2.2 4.17 2.8 1.14 5 1 3.5 5.3 4 3.5 1 74 eb.4 3.2 1.2 e.2 2.a 17.8 bv.a",
    "2.8 14ql.6 5.2 4i.2 i 1 s 1 t 1 1.2*2 16k7 1l*4"]),
  (["CI", "Case_Ignorable"], [
    "13 6 b z 1 1z 4 1 4 2.2 dz.5c 4.2 4 9.2 1 6z.7 5r 5 1d.19 1 1.2*2 1 18 b.6 a.b 1 z a.l g",
    "2t.8 1.a 1.4 x 1 u.r 2j.b 1m.b 4 2 o.o 17.3 18 7.2 5.9 15.1m 1j 1 4.8 4 3.7 a.2 d f 1m 4.4",
    "8 k.2 q 2.2 1l 4.2*2 2.3 3 u.2 3 b.2 1l 4.5 1.2 4 k.2 m.6 1 1m 2 1.4 8 7.2 b.2 u 1p c 1e 3",
    "1j 1.3 5.3 1.4 7.2 b.2 t 1m 2 6 5.2 k.2 s.2 1l.2 4.4 8 k.2 t 20 7.3 1 2i 2.7 b.9 2q 2.9 9",
    "1.7 21.2 r 1*2 1j.e 1.5 1.2 5.b 1.10 9 2u.4 1.6 1.2 2.2 p.2 4.3 g.4 d 2.2 6 f 2m gw.3 qa.3",
    "t.2 u.2*2 1s.2 1.7 8 2.b 3 5 19.5 1f 1t.2 y 3a.3 4.2 9 6.3 63.2 2 1m 1.7 1*2 2.8 6.a 2 13",
    "8.v 1d.4 1c 1.5 1 5 14.9 c.2 w.4 2.2 1.3 1k 1.2 3 1.3 1m.8 2.2 1s.6 2a.3 1.d 1.7 4 6 3.2",
    "1e.1r d y.2t cd 1.3 b.3 d.3*2 d.2 c.5 8.2 a 2 2.5 1d.5 1.a 1 d g.d 1f.x 2a3.2 35.3 3h f",
    "2o.w 1b d1 10.4 3.5 5 2l.6 2l.3 lxy yq.6 7i 2q.4 1.a 1 s.4 28.2 e.y 26 n.3 2v.3 3.2 8 3 4",
    "p.2 5 47.2 q.i d 12.8 p.b 1a.3 1c 2.4 2.2 h l.2 1u.6 2.2*2 c 8 z b 1f 1.3 2.2 5.2 1 r e.2",
    "5.2 1 2s.5 9.3 3d 2 4 fn4 43.h fx.g 3 c.g y 2 4p 7 6 b z 1 1b 19.2 1v l.3 e9 6a 45.5 sl.6",
    "1.16 1.9 g6.3 1.2 5.4 14.3 4 4l.2 fx.4 12 q.5 1 8r.2 27.4 1y.b 1d.4 3f 1i.f 15 2.2 a.3",
    "1d.4 2.2 2 4 a 1e.3 10.5 1.8 1q c.2 1g.9 a.4 2 2n.3 2 1.2 6 2 4d 3.8 l.2 1l.2 3 11.7 3.5",
    "1y.6 d 1*2 e.2 2d.8 2.3 1 n 2c.6 1 4.2 1.2 6m.4 6.2 1.2 r.2 2d.8 2 1.2 2y 1 2.6 1 2t 1 2.4",
    "1.5 77.9 1.2 74.2 1 4 40.4 2.2 4 w.a 14.6 2.4 8 9.6 2.3 1a.d 1.2 ba.7 1.6 1 2a.m 2.7 1.2*2",
    "3e.6 3 1.2 1.7 1 20.2 3 1 9n.2 b.2 1g.5 5 1 n 445.h 6.f 8ug.c 3.3 1xc.5 1n.7 9.4 e4.3 14.2",
    "de 1r.h 1s.2 1.2 cnf.4 1.7 1.2 2hq.2 1.4 3mk.1a 2.n f4.3 9.g 2.7 u.4 44.3 1iz.1j 4.1e 8 e",
    "m.5 1.f 11s.7 1.h 2.7 1.2 1.5 5.1q x 4g.e a8 1p.4 e3.5 72.2 kg.7 31.8 23z.5 gx6p u.2o",
    "3k.6o"]),
  (["Cased"], [
    "1t.q 6.q 1b a 4 5.n 1.v 1.5f 1.4 4.5s 1.10 7.2 u.5 2o 16.4 2.2 2.4 1 6 1.3 1 1.k 1.2b 1.3v",
    "8.4m 1.12 9.15 26v.12 1 5 2.17 1.4 io.2e 2.6 1oi.b 5.17 2.3 1s.5c 1s.7q 2.6 2.12 2.6 2.8",
    "1*3 1.v 2.1h 1.7 1 3.3 1.7 3.4 2.6 4.d 5.3 1.7 38 d g.d 2t 4 2.a 1 3.5 6 1*2 1.4 1.6 4 2.4",
    "5.5 4 h.w 3.2 mp.1g 1ee.6d 6.4 3.2 c.12 1 5 nwy.1a i.u 3o.2u 3.4 1.1q 2.2 1 1.8 l.5 1.3",
    "mt.17 1.e 6.28 fnk.7 c.5 sp.q 6.q x1.28 2o.10 4.10 38.b 1.f 1.7 1.2 1.b 1.f 1.7 1.2 cj 2.3",
    "1.16 1.9 xx.1f d.1f 2l.m a.m 26y.1s gv4.1s k1s.2d 1.1z 1.2 2 2.2 2.4 1.c 1 1.7 1.1t 1.4",
    "2.8 1.7 1.s 1.4 1.5 1 3.7 1.9g 2.p 1.p 1.v 1.p 1.v 1.p 1.v 1.p 1.v 1.p 1.8 1f8.a 1.k 6.6",
    "79.1q 1oy.1w 1kc.q 6.q*2"]),
  (["CWCF", "Changes_When_Casefolded"], [
    "1t.q 2i a.n 1.8 w 1*r 2 1*7 1.2 1*m 1.2 1*3 1.2 1 1.2 1.3 2.4 1.2 1.3 3.2 1.2 1*2 1.2 1 2",
    "1.2 1.3 1 1.2 3 7.2 1.2*2 1*8 2 1*8 2.2 1 1.3 1*t 7.2 1.2 2 1.4 1*4 6u 16 1 3 8 6 1.3 1",
    "1.2 1.h 1.9 m c.3 3.2 1*c 1.2 2.2 1 1.2 2.1f 1c 1*g 9 1*q 1.2 1*6 2 1*1b 2.12 1c 26w.12 1",
    "5 mi.6 1oi.a 6.17 2.3 8w 1*22 5.2 2 1*1c 9.8 8.6 a.8 8.8 8.6 b 1*3 8.8 g.1c 2.3 2.6 5.3",
    "2.6 b.4 c.5 5.3 2.6 89 3.2 6 19.g j mq.q 1f4.1c 1c 1.3 2 1*2 1.4 1 2 8.3 1*1d 8 1 4 nyl",
    "1*m j 1*d 3r 1*6 3 1*u a 1 1.2 1*4 4 1 2 1 3 1*9 1.5*2 1*7 1.4 1 1.2 3 5 1*3 o oq.28 fnk.7",
    "c.5 sp.q xx.14 3s.10 4c.b 1.f 1.7 1.2 1d6.1f 4d.m 27u.w gw0.w o80.y"]),
  (["CWCM", "Changes_When_Casemapped"], [
    "1t.q 6.q 1m a.n 1.v 1.1s 1.2c 1.s 2.e 2.2 1 4.2l 1.i 6.r 1.2 1 1.2 3.2 1.4 1.5 2 1.2 2 7 2",
    "1.2 3.6 5 a.2 4m 16.4 2.2 3.3 1 6 1.3 1 1.k 1.1b 3.x 1.5 1.3p 8.4m 1.12 a.13 26w.12 1 5",
    "2.17 2.3 io.2e 2.6 1oi.b 5.17 2.3 55 3 g 35.4c 2 1.3a 2.6 2.12 2.6 2.8 1*3 1.v 2.1h 1.7 1",
    "3.3 1.7 3.4 2.6 4.d 5.3 1.7 89 3.2 6 r h.w 3.2 mp.1g 1ee.35 1.2*2 7.2u 7.4 3.2 c.12 1 5",
    "nwy.1a i.s 3q.e 2.1q 9.f 3.3 2.5 1.p 1.u 2.2 4.7 o.2 nw s.28 fnk.7 c.5 sp.q 6.q x1.28",
    "2o.10 4.10 38.b 1.f 1.7 1.2 1.b 1.f 1.7 1.2 1c3.1f d.1f 2l.m a.m 26y.1s gv4.1s o74.1w"]),
  (["CWL", "Changes_When_Lowercased"], [
    "1t.q 2t.n 1.7 x 1*r 2 1*7 2 1*m 1.2 1*2 3.2 1 1.2 1.3 2.4 1.2 1.3 3.2 1.2 1*2 1.2 1 2 1.2",
    "1.3 1 1.2 3 7.2 1.2*2 1*8 2 1*8 2.2 1 1.3 1*t 7.2 1.2 2 1.4 1*4 81 1 3 8 6 1.3 1 1.2 1.h",
    "1.9 z 8 1*b 5 2 1.2 2.1f 1c 1*g 9 1*q 1.2 1*6 2 1*1b 2.12 289.12 1 5 k2.2e 1oz 6.17 2.3 8w",
    "1*22 9 1*1c 9.8 8.6 a.8 8.8 8.6 b 1*3 8.8 o.8 8.8*2 8.5 b.5 b.4 c.5 b.5 89 3.2 6 19.g j",
    "mq.q 1f4.1c 1c 1.3 2 1*2 1.4 1 2 8.3 1*1d 8 1 4 nyl 1*m j 1*d 3r 1*6 3 1*u a 1 1.2 1*4 4 1",
    "2 1 3 1*9 1.5*2 1*7 1.4 1 1.2 3 5 1*3 o h7v.q xx.14 3s.10 4c.b 1.f 1.7 1.2 1d6.1f 4d.m",
    "27u.w gw0.w o80.y"]),
  (["CWT", "Changes_When_Titlecased"], [
    "2p.q 1m 15.o 1.8 1*s 2 1*6 1.2 1*n 2 1 1.3 2 1 2 3 5 2 3.3 2*2 1*2 2 4 2 3 1 2 3 1 4 1.2*2",
    "1*8 1.2 1*8 1.3 1*2 3 1*j 3 1*8 8 2.2 1 4 1*3 1.6 1.2 1 1.2 3.2 1.4 1.5 2 1.2 2 7 2 1.2",
    "3.6 5 a.2 4m 17 1 3 3.3 i r.z 1.2 3.3 1*b 1.5 1 2*2 1g.1c 1*h 9 1*q 2 1*5 1.2 1*1c 1d.13",
    "2uo.6 1oi.9 1 6m 3 g 36 1*21 1.7 5 1*1a 1.9 8.6 a.8 8.8 8.6 a.8 8.8 8.e 2.8 8.8*2 8.5 1.2",
    "6 3.3 1.2 8.4 2.2 8.8 a.3 1.2 9i x.g 4 nf.q 1fq.1c 1 3.2 1*3 6 2 a 1*1d 8 1 4 c.12 1 5 nwz",
    "1*m j 1*d 3r 1*6 3 1*u a 1 2 1*4 4*2 1.2 2 1*9 b 1*7 4 1 2 3 5 1*2 q nw s.28 fnk.7 c.5",
    "tl.q y5.14 3s.10 4b.b 1.f 1.7 1.2 1dv.1f 3h.m 27u.w gw0.w o82.y"]),
  (["CWU", "Changes_When_Uppercased"], [
    "2p.q 1m 15.o 1.8 1*s 2 1*6 1.2 1*n 2 1 1.3 2 1 2 3 5 2 3.3 2*2 1*2 2 4 2 3 1 2 3 1 5.2",
    "1.2*2 1*7 1.2 1*8 1.2*2 1 3 1*j 3 1*8 8 2.2 1 4 1*3 1.6 1.2 1 1.2 3.2 1.4 1.5 2 1.2 2 7 2",
    "1.2 3.6 5 a.2 4m 17 1 3 3.3 i r.z 1.2 3.3 1*b 1.5 1 2*2 1g.1c 1*h 9 1*q 2 1*5 1.2 1*1c",
    "1d.13 288.17 2.3 l4.6 1oi.9 1 6m 3 g 36 1*21 1.7 5 1*1a 1.9 8.6 a.8 8.8 8.6 a.8 8.8 8.e",
    "2.1h 1.2 4 1 3.3 1.2 4 3.4 2.2 8.8 a.3 1.2 4 9d x.g 4 nf.q 1fq.1c 1 3.2 1*3 6 2 a 1*1d 8 1",
    "4 c.12 1 5 nwz 1*m j 1*d 3r 1*6 3 1*u a 1 2 1*4 4*2 1.2 2 1*9 b 1*7 4 1 2 3 5 1*2 q nw",
    "s.28 fnk.7 c.5 tl.q y5.14 3s.10 4b.b 1.f 1.7 1.2 1dv.1f 3h.m 27u.w gw0.w o82.y"]),
  (["Dash"], ["19 124 1f 2td sl 1l5.6 1p 13 f au 2dg 2 v.2 4 s ce j 33 14ls.2 11 a 4p 2u8 8u"]),
  (["DI", "Default_Ignorable_Code_Point"], [
    "4t ip jw 282.2 18z.2 2d.5 1kr.5 q.5 1d.g 3ck 14ez.g 6n 4g 27.9 119j.4 43z.8 h405.35s"]),
  (["Dep", "Deprecated"], ["95 10p 1s3 1 1m1.2 1qd.6 jd.2 jh06"]),
  (["Dia", "Diacritic"], [
    "2m 1 1z 6 4 2.2 dz.4f 1.8 5.6 h.2 4 9.2 71.5 5t 1j.19 1 1.2*2 1 3n.8 4.2 3q.2 4.2 3.3 1v.r",
    "2j.b 1m.b y.2 3i.8 15.a g.s 1p g 3.4 s 22 g 32 g 32 g 1b.3 1o g 7 3b 32 g 32 g 31.2 g 3g",
    "33 c.6 1 2z d.5 23.2 r 1*2 4.2 1u.3 1.2 1q 34 1.2 14.2 4.5 p.7 1 a.2 jl.3 qc.2 u 44.b 9",
    "9n.3 84 k.8 2 1c.f 2.b 2w f 12.9 1i.2 1m b.2 1u.2 1s.6 2a.p 4 6 2.3 1e.1r 1c.10 5.c 11.b",
    "cd 1.3 b.3 d.3*2 d.2 2k0.3 8t e2.6 2x.4 2n n76 c.2 1 s.2 2a.2 e.y 2u.3 31.2 c 11 47 r.i",
    "1l.4 10 2n c 10 45.3 1t.4 1f 2s.5 9.3 3k.2 fn4 ld.g 7i 1 1b 19.2 1v l8 wv.6 1.16 1.9 hp.3",
    "4 4l.2 fv.6 12 q.5 b3.3 1y.b 1d.4 5c 15 20.2 3c.2 1q 24 9.3 2w.2 4y.2 28.2 g o.7 3.5 2h.3",
    "1.2 d.2 2n 3 3f.2 6z.2 3i 3a.2 37 7h.2 76.2 4 4c 2b i 29 bp 76 1.2 29 bt.2 n 44s.f 8ux",
    "1xc.5 1n.7 fo.2 f6.h 28.2 cn2.4 1.7 1.2 64h.1a 2.n f4.3 3.6 8.8 2.7 u.4 2v6.1q 5e.7 af",
    "1p.4 la.2 kg.7 31.3 1.3"]),
  (["Emoji"], [
    "z 6 5.a 33 4 68d c 60 m 2i.6 f.2 a7.2 c 4m p.b 4.3 5j 6f.2 a 9 1m.4 1.5 9 2 2.2 2 4 2 1.2",
    "2 3 3.2 8.3 5 1 5.c b.2 2 1.2 1 i 2.2 i.6 1 1.2 3.2 5 2.2 4.2 b.2 5.2 2 5.2 1 1.2 k.2 5.6",
    "1.4 2 4 2 2.6 1 2 1*2 6 3 6 a.2 f 2 4 1 4.3 1 b.2 1c.3 9 e*2 ac.2 cv.3 j.2 1f 4 yi c gp 1",
    "2fze 5m 4g.2 c.2 e 2.a 23.q 1.2 n k 2.9 l.2 4u.y 2.34 2.2 1.3 2.2b 2.3 1.7b 1.1r b.6 1.o",
    "7.2 2.8 c 2.4 2 4.2 d.2 2 8.2 9 5.3 c.3 8.3 2 1 4 6 3 6.2e 1c.1y 5.8 2.3 4.a 3 1.2 3 2.a",
    "6b.c 4 7v.1b 1.a 1.55 34.d 3.a 5.1k 7.f 2.b 6.9"]),
  (["EComp", "Emoji_Component"], ["z 6 5.a 6ab 5x 17or 1c5y.q e3.5 14g.4 gw30.2o"]),
  (["EMod", "Emoji_Modifier"], ["2qrf.5"]),
  (["EBase", "Emoji_Modifier_Base"], [
    "7j1 63 g.4 2iyf 1o.3 2 2.3 39.2 2.b l.j 3 4.3 1.3 7 1 o 5l.2 4 l 4.2 4u.3 3.5 2b g.3 9 b",
    "fz 2 8.8 6 9.a 2.3 1k 1p.2 1.2 1 h.3 1.d 6d.3 16.9"]),
  (["EPres", "Emoji_Presentation"], [
    "6xm.2 5p.4 3 2 eh.2 l.2 1e.c 17 j d 8.2 h.2 5.2 8 5 l 7.2 1 4 2 7 4.2 s z 1 4.3 1 1p.3 o e",
    "nv.2 1f 4 2hf2 5m 5a 2.a 23.q 1 o k 2.5 1.3 l.2 4u.x c.9 1.1y 1.m c.17 4.5 c.h 3 3.1z 1",
    "1.57 2.1r d.4 1.o i q.2 d 2e.2d 1c.1y 6 3.3 2.3 4.4 b.2 7.9 6b.c 4 7v.1b 1.a 1.55 34.d 3.a",
    "5.1k 7.f 2.b 6.9"]),
  (["ExtPict", "Extended_Pictographic"], [
    "4p 4 68d c 60 m 2i.6 f.2 a7.2 c 2n 1y p.b 4.3 5j 6f.2 a 9 1m.4 1.6 1.c 1.36 a.3a 2.b 1*2 6",
    "3 6 a.2 f 2 4 1 4.3 1 b.5 19.3 9 e*2 ac.2 cv.3 j.2 1f 4 yi c gp 1 2fza.74 d.3 v 1o.6 c.2 e",
    "2.a i.1l r.f a k 2.9 1.4 9.c2 5.8u 8.7e 1c.3k 38.c 2d.17 c.4 1k.8 a.6 14.8 u.2a c.1b 1.a",
    "1.c9 74.se"]),
  (["Ext", "Extender"], [
    "53 ew.2 oe c9 hi 3t 2h kw 3j 1tv 1k gz b2 1w 3ux 17.5 2v.2 2l.3 lxy 16e qq m 3t 30 l.2 gor",
    "1lc.2 157 r 4 xz 85 38.2 du.3 y7 fxl.2 ws.2 1 me0.2 xd no.3"]),
  (["Gr_Base", "Grapheme_Base"], [
    "w.2n x.d 1.gi 34.8 2.6 4.7 1 1.k 1.68 7.4m 1.12 2.1e 2.3 1a 1 2*2 9.r 4.6 h.a b 1.1a l.g",
    "1.2t 8 6.2 2 4.w 2 1.u t.2h b e.17 9.7 3.o 4 9 3 7.f 1.p 5 1.b 5.v h.16 1l.1j 1 1.4 8.4",
    "1.3 7.a 2.t 1.2 1.8 2.2 2.m 1.7 1 3.4 3 1.2 6.2 2.2 1 d.2 1.3 4.o 5 1.6 4.2 2.m 1.7 1.2*3",
    "4.3 o.4 1 7.a 2.3 1 c 1.9 1.3 1.m 1.7 1.2 1.5 3.4 8 1.2 3 f.2 4.c 7 8.2 1.8 2.2 2.m 1.7",
    "1.2 1.5 3 2 6.2 2.2 f.2 1.3 4.i b 1.6 3.3 1.4 3.2 1 1.2 3.2 3.3 3.c 5 1.2 3.3 1.3 3 l.l",
    "6.3 1.8 1.3 1.n 1.g 3 3.4 j.3 2 2.2 4.a 7.a 1.b 1.3 1.n 1.a 1.5 3.2 2 1.2 o.2 1.2 4.a 1.3",
    "e.b 1.3 1.15 2 1.2 5.3 1.3 1.2 4.3 1.a 4.q 2.2 1.i 3.o 1.9 1 2.7 9.2 6.7 7.a 2.3 c.1c 1.2",
    "b.8 8.d 11.2 1 1.5 1.o 1 1.a 1.2 9 2.5 1 9.a 2.4 w.o 2.r 1*2 1.e 1.10 i 5 2.5 1d.8 1.6 1.d",
    "11.19 4 6 2.2 2.p 2.4 3.g 4.d 1.2 2.6 1.f 1.14 1 5 2.ah 1.4 2.7 1 1.4 2.15 1.4 2.x 1.4 2.7",
    "1 1.4 2.f 1.1l 1.4 2.1v 5.t 3.q 6.2e 2.6 2.il 3.2h 7.i d.j 3.2 9.i e.d 1.3 f.1g 2 7.8 1.2",
    "b.9 3.a 6.a 6.b 5.a 6.2h 7.5 2.y 1 5.1y a.v 4.4 2.3 4.2 1.6 7 3.16 2.5 b.18 4.q 6.b 3.1l",
    "2.2 3.1k 1 9 1.2 8.6 d.a 6.a 6.e 2e.1c a.4 3.8 1.t 9.c 2.w 4.2 6.1k 1 2.3 1 d.1c 8.2 5.f",
    "3.1q 5.17 2.b b d 7.4 1.6 1.3 2 5.5c 1s.7q 2.6 2.12 2.6 2.8 1*3 1.v 2.1h 1.f 1.e 2.6 1.j",
    "2.3 1.9 1.b 5.o 7.1d g.2 2.r 1.d 3.x 1r.3w 4.ii m.b l.1ec 2.w 1.9k 3.2 5.19 1 5 2.1k 7.2",
    "f.n 9.7 1.7*7 x.2m y.q 1.2h c.5y q.1m 6.g 1.2e 4.2t 5.17 1.2m 1.2e 9.1c 1.mlp 3.1j 9.9o",
    "k.1b 4 a.w 2.28 2.6 8.5q 2.2 1 1.8 l.g 1.3 1.4 1.p 2.5 4.a 6.1k 8.1w a.c o.d 1.12 8.p b",
    "c.u 6.1c 1.2 4.2 2.2 1.d 1.b 4.7 1.p 1.15 6.2 2.2 b.3 1.8 1 2.a 2.w 1.1f 1 3.2 2.5 2 1 o.h",
    "2.8 b.6 2.6*2 9.7 1.7 1.1o 4.39 1.2 1.4 3.a 6.8mc c.n 4.1d 6is.a6 2.2y 12.7 c.5 5 1.o 1.5",
    "1 1.2*2 1.3h g.cd 2.1i 7 w.g g.a m.z 1.j 1.4 4.5 1.3r 4.4d 2.v 3.6 2.6*2 2.3 3.7 1.7 d.2",
    "2.c 1.q 1.j 1.2 1.f 2.e y.3f 5.3 4.19 3.2g 1.d 3 1b.19 3n.t 3.1d g.r 4.10 9.u 5.12 a.u",
    "1.11 4.e 16.4e 2.a 6.10 4.10 4.14 8.1g b.c 1.f 1.7 1.2 1.b 1.f 1.7 1.2 3.1g c.8n 9.m a.8",
    "o.6 1.16 1.9 1x.6 2 1.18 1.2 3 2.n 1.20 8.9 1c.j 1.2 5.x 3.r 5 1s.1k 4.k 2.1b f.4 1.3 1.t",
    "a.9 7.9 7.1s w.11 6.c 9.1i 3.t 2.r 5.q 7.4 c.7 28.21 1j.1f d.1f 7.16 c.a 6.12 8.o 8.2 5s.v",
    "1.16 3 2.2 g.3 1n.14 8.m b.9 m.i 4.4 12.s k.n 9 1.1i f.7 4.u 1.2 2 c.1d 4.2 2.2 1.4 e.p",
    "7.a 9.10 5 9.i 8.z 1.3 b.1g 9 1.8 4.2 1.g 1.k b.i 1.s 3.2 4.6 1.2 1r.7 1 1.4 1.f 1.b 6.1b",
    "1.3 d.a 8.2 1.8 2.2 2.m 1.7 1.2 1.5 3 1 1.4 2.2*2 3 c.7 s.a 1 2 1.12 1 1.2 f 1.2 3 1.3 1.2",
    "13.1k 8.2 3 1.l 1 1.3 u.1c 1.2 6 1.2 1 2 2.4 8.a 4m.1b 1.2 6.4 2 2.r 10.1f 8.2 1 2.4 b.a",
    "6.d j.17 1 1.2 8.2 6.a 6.k s.r 3 1.2 4 9.n 55.1b 9 2 2s.2b c.8 2 2.8 1.2 1.o 1.5 1.2 6.4",
    "1.3 9.a 1y.8 2.16 8.4 1.4 r a.14 6.2 4.8 9 6.2 3.1a d 2.9 d.21 7.a 52.y e.a 6.9 1.12 e 1.6",
    "a.t 3.w p 7 2 23.7 1.2 1.12 l 9.a 6.6 1.2 1.11 4.2 1*2 7.a 8m.j 2.4 9.f 1.10 8.2 3.n 2e",
    "f.1e d.pn 2u.33 1.5 b.5g 218.2r d.ts h.6 p.32z 5.g7 5a1.u c.3 3.a 1c6.ft 7.v 1.a 4.29 1.a",
    "6.u 7 a.1c 7.f a.a 1.7 1.l 5.j c0.1m 5i.2j 2t.23 5.1k b.d 1s.4 s.4qg 8.ye 15.a 6w7.4 1.7",
    "1.2 1.83 f t.3 2 e.4 8.b0 1s4.2z 5.d 3.9 7.a 2*2 31c.6y 6.c4 4c.38 1o.6u a.13 2.1o 5.3 m.2",
    "7.u 4.1p l.1u 3 3e.k c.k c.2f 9.p 3r.2d 1.1z 1.2 2 2.2 2.4 1.c 1 1.7 1.1t 1.4 2.8 1.7 1.s",
    "1.4 1.5 1 3.7 1.9g 2.84 2.fm 1j.4 1e.8 1.e 1.7 vo.v 6.6 79.1q 42.19 a.7 2.a 4.2 8w.u i.18",
    "4.a 5 cw.s 4.a 5y.u 2.b 4 dc.7 1.4 1.2 1.f 1.5h 2.9 1c.1w 7 4.a 4.2 lt.1w 24.1p 5e.4 1.r",
    "1.2 1 2 1.a 1.4 1*2 6 4 1*2 1.3 1.2 1 2 1*4 1.2 1 2.4 1.7 1.4*2 1 1.a 1.h 5.3 1.5 1.h 1g.2",
    "7i.18 4.2s c.f 2.f 1.f 1.11 a.4u 1k.t d.18 4.9 7.2 e.6 4a.rc 4.h 3.d 3.3b 4.2n 6.c 4 f.c",
    "4.1k 8.a 6.14 8.u 2.c 4.2 1q.9g c.e 2.d 3.a 5.1k 7.f 2.b 6.9 7.43 1.2u sm.wyo w.37e 6.66",
    "2.4g2 e.5rl f.ha 1wi.f2 15u.3t7 5.38g"]),
  (["Gr_Ext", "Grapheme_Extend"], [
    "lc.34 7n.7 7b.19 1 1.2*2 1 20.b 1c.l g 2t.7 2.6 2.2 1.4 z u.r 2j.b 1m.9 9 o.4 1.9 1.3 1.5",
    "17.3 1n.9 16.o 1.w 1j 1 4.8 4 3.7 a.2 t 1m 1 2.4 8 9 a.2 q 2.2 1l 4.2*2 2.3 3 u.2 3 b.2 1l",
    "4.5 1.2 4 k.2 m.6 1 1m 1.2 1.4 8 7.3 a.2 u 1n 1 c 9 14 3 1j 1.3 5.3 1.4 7.2 b.2 t 1m 2.2 1",
    "3.3 1.4 7.2 b.2 s.2 1l.2 1 2.4 8 9 a.2 t 20 4 2.3 1 8 29 2.7 c.8 2q 2.9 b.7 21.2 r 1*2",
    "1j.e 1.5 1.2 5.b 1.10 9 2u.4 1.6 1.2 2.2 p.2 4.3 g.4 d 2.2 6 f jj.3 qa.4 s.3 t.2 u.2 1s.2",
    "1.7 8 2.b 9 19.3 1 39.2 y 3a.3 4.2 9 6.3 63.2 2 1m 1.7 1*2 2.8 6.a 2 1c.v 1d.4 1c.a 4.3",
    "12.9 c.2 w.4 2.6 1k 1.2 3 1.5 1k.8 2.2 48.3 1.d 1.7 4 6 3.2 5i.1s ek 5f.x 2da.3 3x 2o.w",
    "fe.6 2x.2 n9w.4 1.a w.2 28.2 7k 3 4 p.2 5 47.2 q.i d 12.8 p.b 1 18.3 1c 2.4 2.2 2 10 1v.6",
    "2.2*2 c 8 1b 1f 1.3 2.2 5.2 1 16.2 8 6m 2 4 fn4 kh.g g.g a6.2 gt 6a 45.5 1ae.3 1.2 5.4",
    "14.3 4 4l.2 fx.4 1t.5 8t.2 27.4 1y.b 1d.4 3f 1i.f 15 2.2 a.3 1d.4 2.2 7 1p.3 10.5 1.8 1q",
    "c.2 1g.9 1 8.4 2 2n.3 2.4 6 2 4d 3.8 l.2 1l.2 1*2 c 9 e.7 3.5 1v 2.6 1 2 1.3 4.3 1 e.2",
    "2d.8 2.3 1 n 29 2.6 1 2 1.2*2 6j 2.4 6.2 1.2 r.2 2d.8 2 1.2 2y 1 2.8 2t 1 2.4 1.5 77.9 1.2",
    "6t a.4 4 40.4 2.2 4 w.a 14.6 2.4 8 9.6 2.3 1a.d 1.2 ba.7 1.6 1 2a.m 2.7 1.2*2 3e.6 3 1.2",
    "1.7 1 20.2 3 1 9n.2 b.2 1g.5 5.3 n 44l 6.f 8ug.c 3.3 1xc.5 1n.7 t4 1r.4 29 b.2 f57.2",
    "3mp.1a 2.n f2.5 3.6 8.8 2.7 u.4 44.3 1iz.1j 4.1e 8 e m.5 1.f 11s.7 1.h 2.7 1.2 1.5 2s 4g.7",
    "af 1p.4 e4.4 72.2 kg.7 31.7 gzbp.2o 3k.6o"]),
  (["Gr_Link", "Grapheme_Link"], [
    "1u5 3j*7 31.2 g 3g 33 3j 5l 50.2 1cp.2 u 4d i5 6b 2t.2 1y.2 3gr o7a 11 47 3y 30 8l 6u imp",
    "16u 15 e 1l 3d.2 3v 38 50 2q 3k.3 35 3j 70 3j 3a 38 7h 77.2 4h 2b i 29 bp 78.2 29 bt.2 d0s"]),
  (["Hex", "Hex_Digit"], ["1c.a 7.6 q.6 1eax.a 7.6 q.6"]),
  (["Hyphen"], ["19 3j yk 3nf 1l5.2 2rp kj 14kn 4p 2f"]),
  (["ID_Compat_Math_Continue"], ["4y.2 5 69i 3.b 1.f ab 4 m 2e8y p v p v p v p v p"]),
  (["ID_Compat_Math_Start"], ["6pu 4 m 2e8y p v p v p v p v p"]),
  (["IDC", "ID_Continue"], [
    "1c.a 7.q 4 1.q 1b a 1 2 5.n 1.v 1.cq 4.c e.5 7 1 h.39 1.2 2.4 1 6.5 1 1.k 1.2b 1.3v 1.5",
    "2.4m 1.12 2 6.15 8.19 1 1.2*2 1 8.r 4.4 t.b 5.22 4.2u 1.8 2.a 1.j 2 g.1n 2.2t e.1i 4 2",
    "2.1a i.s 4.b 5.o 1.6 8.23 1.3l 2.a 1.j 1.8 2.2 2.m 1.7 1 3.4 2.9 2.2 2.4 8 4.2 1.5 2.c a 1",
    "2.3 1.6 4.2 2.m 1.7 1.2*3 2 1.5 4.2 2.3 3 7.4 1 7.g b.3 1.9 1.3 1.m 1.7 1.2 1.5 2.a 1.3*2",
    "2 f.4 2.a 9.7 1.3 1.8 2.2 2.m 1.7 1.2 1.5 2.9 2.2 2.3 7.3 4.2 1.5 2.a 1 g.2 1.6 3.3 1.4",
    "3.2 1 1.2 3.2 3.3 3.c 4.5 3.3 1.4 2 6 e.a g.d 1.3 1.n 1.g 2.9 1.3 1.4 7.2 1.3 2 2.4 2.a",
    "g.4 1.8 1.3 1.n 1.a 1.5 2.9 1.3 1.4 7.2 6.2 1.4 2.a 1.3 c.d 1.3 1.1f 1.3 1.5 5.4 7.5 2.a",
    "a.6 1.3 1.i 3.o 1.9 1 2.7 3 4.6 1 1.8 6.a 2.2 d.1m 5.f 1.a 13.2 1 1.5 1.o 1 1.n 2.5 1 1.7",
    "1.a 2.4 w n.2 6.a b 1*2 4.a 1.10 4.k 1.i 1.10 9 1l.22 6.26 2.12 1 5 2.17 1.99 1.4 2.7 1",
    "1.4 2.15 1.4 2.x 1.4 2.7 1 1.4 2.f 1.1l 1.4 2.1v 2.3 9.9 e.g g.2e 2.6 3.h8 2.h 1.q 5.23",
    "3.b 7.m 9.m b.k c.d 1.3 1.2 c.2c 3 4.2 2.a x.3 1.b 6.2h 7.17 5.1y a.v 1.c 4.c a.14 2.5",
    "b.18 4.q 6.b 11.s 4.1r 1.t 2.b 6.a d 8.e 1.g 1d.25 3.a h.9 c.38 c.1k 8.a 3.1d 2.b 5.17 2.3",
    "g.3 1.13 5.eu 2.6 2.12 2.6 2.8 1*3 1.v 2.1h 1.7 1 3.3 1.7 3.4 2.6 4.d 5.3 1.7 f.2 1d.2 j s",
    "d g.d 1f.d 4 3.c h 4 2.a 1 2.6 6 1*2 1.g 2.4 5.5 4 h.15 22f.6d 6.9 c.12 1 5 2.1k 7 f.o 9.7",
    "1.7*7 1.w ed.3 p.f 1.5 2.5 4.2e 2.7 1.2n 5.17 1.2m h.w 1c.g e8.534 1s.h3h 1v.1a 2.7h 3.s",
    "k.1c 4.a 1.37 11.9 2.2v 2.1v 2.2 1 1.8 l.1i 4 j.1g c.1y a.a 6.o 3 1.1d 2.10 c.t 3.1t e.b",
    "6.v 1.1j 9.e 2.a 6.n 3.21 o.3 2.g 2.5 a.6 2.6*2 9.7 1.7 1.17 1.e 6.3f 1.2 2.a 6.8mc c.n",
    "4.1d 6is.a6 2.2y 12.7 c.5 5.c 1.d 1.5 1 1.2*2 1.30 x.a3 i.1s 2.1i 14.c 4.g g.g 3.2 o.3 w.5",
    "1.3r j.a 7.q 4 1.q a.2i 3.6 2.6*2 2.3 z.c 1.q 1.j 1.2 1.f 2.e y.3f 1x.1h 3s 3m.t 3.1d f",
    "v.w d.u 5.17 5.u 2.10 4.8 1.5 16.4e 2.a 6.10 4.10 4.14 8.1g c.b 1.f 1.7 1.2 1.b 1.f 1.7",
    "1.2 3.1g c.8n 9.m a.8 o.6 1.16 1.9 1x.6 2 1.18 1.2 3 2.n a.n 9.v 1t.j 1.2 a.m a.q 1y.1k",
    "6.2 1s.4 1.2 5.8 1.3 1.t 2.3 4 w.t 3.t z.8 1.u p.1i a.m a.j d.i 32.21 1j.1f d.1f d.14 8.a",
    "6.12 3.5 1.n 6y.16 1.2 3.2 g.3 1j.x a 8.x v.m 16.l r.n 9.1z v.g 9.1o 7 d.p 7.a 6.1h 1.a",
    "4.4 8.10 2 9.1x 4.4 1.d 1 z.i 1.11 6.4 1q.7 1 1.4 1.f 1.a 7.1n 5.a 6.4 1.8 2.2 2.m 1.7 1.2",
    "1.5 1.a 2.2 2.3 2 6 5.7 2.7 3.5 b.a 1 2 1.12 1.a 1 2 1.4 1.8 d.2 t.23 5.a 4.4 u.1y 1 8.a",
    "4m.1i 2.9 n.6 y.1t 3 b.a 12.1l 7.a 6.k s.r 2.f 4.a 6.7 55.1n 2t.22 l.8 2 2.8 1.2 1.u 1.2",
    "2.9 c.a 1y.8 2.1a 2.8 1.2 r.1r 8 8.22 3 i.21 5j.x f.a 6.9 1.19 1.9 f.a o.u 2.m 1.e 21.7",
    "1.2 1.18 3 1.2 1.9 8.a 6.6 1.2 1.11 1.2 1.6 7.a 8m.n 9.h 1.15 3.5 d.b 2d 27.pm 2u.33 h.5g",
    "218.2p f.ts g.m a.32z 5.g7 5a1.1m 1c6.ft 7.v 1.a 6.27 1.a 6.u 2.5 b.1j 9.4 c.a 9.l 5.j",
    "c0.19 3.a 5i.1s 3k.23 4.1l 7.h 1s.2 1.2 b.2 e.4qg 8.ye 15.a 6w7.4 1.7 1.2 1.83 f t.3 2 e.4",
    "8.b0 1s4.2z 5.d 3.9 7.a 3.2 381.a ee.1a 2.n f2.5 3.6 8.8 2.7 u.4 44.3 cb.2d 1.1z 1.2 2 2.2",
    "2.4 1.c 1 1.7 1.1t 1.4 2.8 1.7 1.s 1.4 1.5 1 3.7 1.9g 2.p 1.p 1.v 1.p 1.v 1.p 1.v 1.p 1.v",
    "1.p 1.8 2.1e e8.1j 4.1e 8 e m.5 1.f uo.v 6.6 5x.7 1.h 2.7 1.2 1.5 5.1q x 34.19 3.e 2.a 4",
    "8x.v h.1m d2.16 5y.17 dh.7 1.4 1.2 1.f 1.5h b.7 15.24 4.a x2.4 1.r 1.2 1 2 1.a 1.4 1*2 6 4",
    "1*2 1.3 1.2 1 2 1*4 1.2 1 2.4 1.7 1.4*2 1 1.a 1.h 5.3 1.5 1.h 2lw.a sm.wyo w.37e 6.66",
    "2.4g2 e.5rl f.ha 1wi.f2 15u.3t7 5.38g f9e8.6o"]),
  (["IDS", "ID_Start"], [
    "1t.q 6.q 1b a 4 5.n 1.v 1.cq 4.c e.5 7 1 3l.5 1.2 2.4 1 6 1.3 1 1.k 1.2b 1.3v 8.4m 1.12 2",
    "6.15 1z.r 4.4 19.17 z.2 1.2r 1 f.2 7.2 a.3 2 g 1.u t.2h b o.x 9.2 4 5.m 4 9 3 n.p 7.b 5.o",
    "1.6 h.16 1m.1i 3 i 7.a f.g 4.8 2.2 2.m 1.7 1 3.4 3 g d.2 1.3 e.2 a 8.6 4.2 2.m 1.7 1.2*3",
    "v.4 1 j.3 g.9 1.3 1.m 1.7 1.2 1.5 3 i f.2 n b.8 2.2 2.m 1.7 1.2 1.5 3 u.2 1.3 f h 1.6 3.3",
    "1.4 3.2 1 1.2 3.2 3.3 3.c m 1g.8 1.3 1.n 1.g 3 q.3 2 2.2 u 4.8 1.3 1.n 1.a 1.5 3 v.2 1.2",
    "f.2 h.9 1.3 1.15 2 g 5.3 8.3 o.6 5.i 3.o 1.9 1 2.7 1m.1c 1.2 c.7 1m.2 1 1.5 1.o 1 1.a 1.2",
    "9 2.5 1 l.4 w 1r.8 1.10 r.5 37.17 k g.6 4.4 3 3.2 7.3 4.d c h.12 1 5 2.17 1.99 1.4 2.7 1",
    "1.4 2.15 1.4 2.x 1.4 2.7 1 1.4 2.f 1.1l 1.4 2.1v 11.g g.2e 2.6 3.h8 2.h 1.q 5.23 3.b 7.i",
    "d.j e.i e.d 1.3 f.1g z 4 1v.2h 7.15 1 5.1y a.v 1d.u 2.5 b.18 4.q 1i.n 9.1h 2a 2l.1b h.8",
    "1i.u d.2 a.18 q.10 15.3 a.10 2.b 5.17 2.3 15.4 1.6 1.2 3 5.5c 1s.7q 2.6 2.12 2.6 2.8 1*3",
    "1.v 2.1h 1.7 1 3.3 1.7 3.4 2.6 4.d 5.3 1.7 38 d g.d 2t 4 2.a 1 2.6 6 1*2 1.g 2.4 5.5 4",
    "h.15 22f.6d 6.4 3.2 c.12 1 5 2.1k 7 g.n 9.7 1.7*7 fa.3 p.9 7.5 2.5 4.2e 4.5 1.2i 1.4 5.17",
    "1.2m h.w 1c.g e8.534 1s.h3h 1v.1a 2.7h 3.g a.2 k.1b g.v 2.28 13.9 2.2v 2.1v 2.2 1 1.8 l.g",
    "1.3 1.4 1.n t.1g e.1e 1q.6 3 1.2 b.s a.n p.t 7.1b s g.5 1.a a.5 1.15 n.3 1.8 k.n 3 3.1e 1",
    "3.2 2.5 2 1 o.3 2.b 7.3 c.6 2.6*2 9.7 1.7 1.17 1.e 6.37 t.8mc c.n 4.1d 6is.a6 2.2y 12.7",
    "c.5 5 1.a 1.d 1.5 1 1.2*2 1.30 x.a3 i.1s 2.1i 14.c 38.5 1.3r 10.q 6.q b.2h 3.6 2.6*2 2.3",
    "z.c 1.q 1.j 1.2 1.f 2.e y.3f 1x.1h 7f.t 3.1d 1b.w d.u 5.12 a.u 2.10 4.8 1.5 16.4e i.10",
    "4.10 4.14 8.1g c.b 1.f 1.7 1.2 1.b 1.f 1.7 1.2 3.1g c.8n 9.m a.8 o.6 1.16 1.9 1x.6 2 1.18",
    "1.2 3 2.n a.n 9.v 1t.j 1.2 a.m a.q 1y.1k 6.2 1s f.4 1.3 1.t 16.t 3.t z.8 1.s r.1i a.m a.j",
    "d.i 32.21 1j.1f d.1f d.10 12.s 9.n 6y.16 6.2 g.3 1n.t a 8.m 16.i 1a.l r.n c.1h 1l.2 2 d.19",
    "w.p q.10 t 2 8.z 3 c.1c e.4 l 1 z.i 1.p j.2 1r.7 1 1.4 1.f 1.a 7.1b 12.8 2.2 2.m 1.7 1.2",
    "1.5 3 i c.5 u.a 1 2 1.12 1 p 1 18.1h i.4 k.3 u.1c k.2 1 54.1b 15.4 10.1c k 1n.17 d 1z.r",
    "11.7 55.18 38.1s v.8 2 2.8 1.2 1.o f 1 2m.8 2.13 g 1 s a.14 7 l b.1a j i.21 5j.x v.9 1.11",
    "h 1d.u 34.7 1.2 1.12 l p.6 1.2 1.w e 93.j f 1.d 1.y 3g 27.pm 2u.33 h.5g 218.2p f.ts h.6",
    "p.32z 5.g7 5a1.u 1cy.ft 7.v h.27 h.u i.1c g.4 v.l 5.j c0.19 5v.1s 3k.23 5 1u.d 1s.2 1",
    "s.4qg 8.ye 15.a 6w7.4 1.7 1.2 1.83 f t.3 2 e.4 8.b0 1s4.2z 5.d 3.9 7.a 4me.2d 1.1z 1.2 2",
    "2.2 2.4 1.c 1 1.7 1.1t 1.4 2.8 1.7 1.s 1.4 1.5 1 3.7 1.9g 2.p 1.p 1.v 1.p 1.v 1.p 1.v 1.p",
    "1.v 1.p 1.8 1f8.v 6.6 79.1q 42.19 a.7 g 8x.u i.18 dg.s 6c.u 2 dr.7 1.4 1.2 1.f 1.5h 1n.1w",
    "7 xg.4 1.r 1.2 1 2 1.a 1.4 1*2 6 4 1*2 1.3 1.2 1 2 1*4 1.2 1 2.4 1.7 1.4*2 1 1.a 1.h 5.3",
    "1.5 1.h 3es.wyo w.37e 6.66 2.4g2 e.5rl f.ha 1wi.f2 15u.3t7 5.38g"]),
  (["Ideo", "Ideographic"], [
    "9hi.2 p.9 e.3 qt.534 1s.g74 hkw.a6 2.2y n4a r.4qg 8.ye 15.a 76v.b0 f7o.wyo w.37e 6.66",
    "2.4g2 e.5rl f.ha 1wi.f2 15u.3t7 5.38g"]),
  (["IDSB", "IDS_Binary_Operator"], ["9gw.2 2.a dt"]),
  (["IDST", "IDS_Trinary_Operator"], ["9gy.2"]),
  (["IDSU", "IDS_Unary_Operator"], ["9ha.2"]),
  (["Join_C", "Join_Control"], ["6bw.2"]),
  (["LOE", "Logical_Order_Exception"], ["2tc.5 3f.5 25s.3 2 smy.2 2 1.2"]),
  (["Lower", "Lowercase"], [
    "2p.q 1b a 4 10.o 1.8 1*r 1.2 1*7 1.2 1*n 2 1 1.3 2 1 2 3.2 4 2 3.3 2*2 1*2 2 1.2 1 2 3 1",
    "2.2 2.3 6 2*2 1*7 1.2 1*8 1.2 2 1 3 1*s 1.7 2 2.2 1 4 1*3 1.1x 1.10 7.2 u.5 2o 17 1 3 2.4",
    "i r.z 1.2 3.3 1*b 1.5 1 2 2.2 1f.1c 1*h 9 1*q 2 1*5 1.2 1*1c 1c.15 287.17 1.4 l4.6 1oi.9 1",
    "39.5c 1t 1*21 1.9 1*1c 1.9 8.6 a.8 8.8 8.6 a.8 8.8 8.e 2.8 8.8*2 8.5 1.2 6 3.3 1.2 8.4 2.2",
    "8.8 a.3 1.2 3d d g.d 31 3.2 3 r 4*2 2.2 8.4 4 x.g 4 nf.q 1fq.1c 1 3.2 1*3 4 1.2 1.8 3 1*1c",
    "1.2 7 1 4 c.12 1 5 nwz 1*m j 1*c 1.3 3p 1*5 1.3 1*u 1.a 1*2 2 1*4 4 1 2 1.3 1*a 5*2 1*7 4",
    "1 2 3 1*5 m.3 1 1.3 mt.17 1.e 6.28 fnk.7 c.5 tl.q y5.14 3s.10 4b.b 1.f 1.7 1.2 cj 2.3 1.16",
    "1.9 zp.1f 3h.m 27u.w gw0.w k2i.q q.7 1.i q.q q.4 1 1.7 1.b q.q*8 q.s s.p 1.6 q.p 1.6 q.p",
    "1.6 q.p 1.6 q.p 1.6 1 1f8.a 1.k 6.6 79.1q 1pw.y"]),
  (["Math"], [
    "17 g.3 v t 1 19 4 11 v k8.3 2 q.2 2.3 en.3 559 r.3 b 3 d e.4 l.5 b.5 1t.d 4 3.2 4.5 i 4",
    "2.a 1 2.6 6 3.2 2.2 1.3 1.6 3.e 1 1w.o 1.6 1.2 4.2 4.w 1 6.2 e.7g 8.4 k.2 2i u.r 1 o b.7",
    "cd.2 c.a 4.6 4.2 2.2 3.5 e 1 2.6 b.8 5.2 1l 1 t.4 9.3 9c.1s 74.e8 1c.l 2.6 1524 mv.6 1 4i",
    "g.3 t 1 t 1 3n 6.4 2ox.2 1374.2d 1.1z 1.2 2 2.2 2.4 1.c 1 1.7 1.1t 1.4 2.8 1.7 1.s 1.4 1.5",
    "1 3.7 1.9g 2.84 2.1e 4cg.4 1.r 1.2 1 2 1.a 1.4 1*2 6 4 1*2 1.3 1.2 1 2 1*4 1.2 1 2.4 1.7",
    "1.4*2 1 1.a 1.h 5.3 1.5 1.h 1g.2"]),
  (["MCM", "Modifier_Combining_Mark"], ["190.2 2 3n 6 3.2 dd.2 1.3 3 v"]),
  (["NChar", "Noncharacter_Code_Point"], ["1e4w.w em.2 1eke.2*g"]),
  (["OAlpha", "Other_Alphabetic"], [
    "n9 t.d g0.e 1 1.2*2 1 20.b 1c.d 1.7 g 2t.7 4.4 2.2 4 z u.g 2u.b 2t.2 3.9 1.3 1.4 2y 1o.c",
    "3.7 6.k 1i.2 2.f 1.2 5.3 a.2 t.3 1m.7 2.2*2 a a.2 t.3 1m.5 4.2 2.2 4 u.2 3 b.3 1m.8 1.3",
    "1.2 l.2 m.3 4.3 1m.7 2.2*2 9.2 a.2 u 1n.5 3.3 1.3 a 14.5 1l.7 1.3*2 8.2 b.2 t.3 1m.7 1.3*2",
    "8.2 b.2 f c.4 1m.7 1.3*2 a a.2 t.3 23.6 1 1.8 i.2 1p 2.7 i 2r 2.6 1.2 g 4j.j 9.b 1.10 32.c",
    "1 2.4 n.4 4.3 1.3 2.7 3.4 d.c 1 a.4 19w.2 u.2*3 1u.j 58.2 y 3a.c 4.9 66.5 1l.a 2.k 22.2",
    "b.3 1d.5 1c.f 1o.3 u.9 2.2 1l.b 1e.j bg.y 1c1.1g 1rq.w nsk.8 y.2 9u 8 n.5 2g.2 1e.g 1 1l",
    "12.5 s.c 19.4 1c.c 11 1v.e c 8.2 19.3 1e 1.3 2.2 5 18.5 5 6l.8 fn7 1nb.5 1ae.3 1.2 5.4",
    "lw.4 1t 8x.2 27 77.3 1h.e 19.2 b.3 19.9 9 1p.3 10.c i.2 1l.3 1c.d e.2 2k.9 2 6 2 4d.a n.4",
    "1m.7 2.2*2 a a.2 2c.9 1 2 1.4 1.2 2v.d 1.3 2y.i 6l.7 2.7 t.2 2a.f 1 2y.b 2v.e 75.d 6v.6",
    "1.2 2.2 3 1 3y.7 2.6 4 s.a 16.5 1.4 i.b 1a.e bb.8 1.7 2b.m 1.e 3e.6 3 1.2 1.3 1 3 1u.5 1.2",
    "1.4 9o.4 9.2 1 1c.7 3.3 d0d.h 2sg 1.1j 7.4 2l.2 f58 6zl.7 1.h 2.7 1.2 1.5 2s 1pz 1k8.q",
    "6.q*2"]),
  (["ODI", "Other_Default_Ignorable_Code_Point"], [
    "nj 2rz.2 18z.2 1pr 3cu 14qj 27.9 i9dz 1.u 2o.3k 6o.2s0"]),
  (["OGr_Ext", "Other_Grapheme_Extend"], [
    "1xa o 9y o 2u o 6g 1 4.2 1.2 9.2 2v o 3b f 1th u sg 5 1 5.2 2t 1z.2 t4 36p.2 nxf 30 gyl.2",
    "3kw 38 7c e 9 2o 9 2 1.3 5 68 c 6p 7a hl c 16r fxq.2 j8z.2 6.6 h419.2o"]),
  (["OIDC", "Other_ID_Continue"], ["53 jz 34x.9 19k 181.2 3cd 14rt"]),
  (["OIDS", "Other_ID_Start"], ["4ud.2 1ox l 31o.2"]),
  (["OLower", "Other_Lowercase"], [
    "4q f dx.9 7.2 u.5 2o 1g 2o1 2en.1r d y.11 j5 d g.d 5v.g nk.q 1hu.2 o4e.2 5u 3l.3 3.2 o2.4",
    "9 i6u 2.3 1.16 1.9 16r9.1q"]),
  (["OMath", "Other_Math"], [
    "2m oh.3 2 q.2 2.2 5k0 r.3 b w.4 o.2 e.2 1t.d 4 3.2 4.5 i 4 2.a 1 3.5 6 3.2 2.2 1.3 1.6 3.4",
    "5.5 23.5 2.4 1.2*2 1 1.5 2.2 4.2 4.i 2.2 1 1.7 1 6.2 82.4 4o.2 1 o h cd.2 c.9 5.5 5.2 2.2",
    "3.5 e 1 2.6 o.2 1l 1 t.4 9.2 9i.2 v.a b7.m 1r.4 w.2 15yb 1 4 5v 1 160x.2d 1.1z 1.2 2 2.2",
    "2.4 1.c 1 1.7 1.1t 1.4 2.8 1.7 1.s 1.4 1.5 1 3.7 1.9g 2.p 1.p 1.v 1.p 1.v 1.p 1.v 1.p 1.v",
    "1.p 1.8 2.1e 4cg.4 1.r 1.2 1 2 1.a 1.4 1*2 6 4 1*2 1.3 1.2 1 2 1*4 1.2 1 2.4 1.7 1.4*2 1",
    "1.a 1.h 5.3 1.5 1.h"]),
  (["OUpper", "Other_Uppercase"], ["6lc.g na.q 2ixs.q 6.q*2"]),
  (["Pat_Syn", "Pattern_Syntax"], [
    "x.f a.7 q.4 1 q.4 y.7 1 1.2 1 1.2 4*2 3 n v 654.o 8.f 2.j 1.a 8h.k0 4g.hi u.vg e8.3k ap.3",
    "4.p f 14i5.2 79.2"]),
  (["Pat_WS", "Pattern_White_Space"], ["9.5 i 2s 688.2 o.2"]),
  (["PCM", "Prepended_Concatenation_Mark"], ["16o.6 5z 1d ao.2 28 1g4a f"]),
  (["QMark", "Quotation_Mark"], ["y 4 3n f 670.8 p.2 2rr cp.4 d.3 14pt.4 59 4 2i.2"]),
  (["Radical"], ["96o.q 1.2h c.5y"]),
  (["RI", "Regional_Indicator"], ["2qcm.q"]),
  (["STerm", "Sentence_Terminal"], [
    "x c g 11l 43.3 50 17.3 6u 1p 1 3.2 85.2 1d0.2 ly 4.2 lh 5i.2 4d.2 19 5 8q.2 9u.4 4i.2 a.2",
    "2.2 t.3 57.2 1t.2 pw n.2 9.3 2i7.3 8i d m.2 bx n3w 7i.2 6b 3 am.2 2e.2 2n 48.2 43.3 40.2",
    "6x g86 2.2 1n 3.2 4p c g 1t 25w.2 zh.5 18.4 59.2 39.4 3j.3 3l.2 6 g.2 2g.2 1.2 30 8a.2",
    "39.2 ad.2 5.f 2x.2 6x.3 ed 1 6z.2 2f.2 bo.2 j8.2 22.2 euh.2 3p 1t.2 b fd.2 88 feu 5wo"]),
  (["SD", "Soft_Dotted"], [
    "2x.2 5g 7t u 1g k 8w 2q 1 4y1 1f d 3 3o 4d bp 5y.2 27m 2bol.2 1e.2*c 1om 8h.2 q"]),
  (["Term", "Terminal_Punctuation"], [
    "x a 1 b.2 3 n2 8 e9 1l 20 e 1.3 50 17.b 1 6j.2 1i.6 1.8 v 79.2 z8.2 4s 4.6 8n.2 lx.8 lh",
    "3g.3 1z.2 4d.3 3 13.4 2.2 8q.2 9u.4 4i.2 a.2 1.3 t.3 57.5 1q.2 pw n.2 9.3 2i7.3 8i d 4 a",
    "1.2 3.2 bw.2 n3v.2 7h.3 6b.5 am.2 2e.2 2n 47.3 43.3 3j g.2 6x g86 2.2 1l.3 1.4 4p a 1 b.2",
    "3 1t 2 u2 1c w6 5j 8m.2 48.6 1w.6 2h.4 qg.5 18.4 59.7 34.4 3j.3 3l.2 6 g.2 2g.5 30 8a.2",
    "39.3 c.2 9y.4 3.f 2x.2 6x.3 ed 1 6z.2 2f.2 4.2 bi.3 19 hx.2 22.2 10r.5 dtl.2 3p 1t.3 a",
    "fd.2 87.2 feu 5wn.4"]),
  (["UIdeo", "Unified_Ideograph"], [
    "a9s.534 1s.g74 hse.2 1 1.2 a 1 1.2 2.3 1fpy.wyo w.37e 6.66 2.4g2 e.5rl f.ha 3he.3t7 5.38g"]),
  (["Upper", "Uppercase"], [
    "1t.q 2t.n 1.7 x 1*r 2 1*7 2 1*m 1.2 1*2 3.2 1 1.2 1.3 2.4 1.2 1.3 3.2 1.2 1*2 1.2 1 2 1.2",
    "1.3 1 1.2 3 7 2*3 1*7 2 1*8 2*2 1.3 1*t 7.2 1.2 2 1.4 1*4 81 1 3 8 6 1.3 1 1.2 1.h 1.9 z",
    "2.3 3 1*b 5 2 1.2 2.1f 1c 1*g 9 1*q 1.2 1*6 2 1*1b 2.12 289.12 1 5 k2.2e 1oz 6.17 2.3 8w",
    "1*22 9 1*1c 9.8 8.6 a.8 8.8 8.6 b 1*3 8.8 20.4 c.4*2 c.5 b.4 7a 4 3.3 2.3 2 3.5 6 1*2 1.4",
    "2.4 a.2 5 q.g j mq.q 1f4.1c 1c 1.3 2 1*2 1.4 1 2 8.3 1*1d 8 1 4 nyl 1*m j 1*d 3r 1*6 3 1*u",
    "a 1 1.2 1*4 4 1 2 1 3 1*9 1.5*2 1*7 1.4 1 1.2 3 5 1*3 o h7v.q xx.14 3s.10 4c.b 1.f 1.7 1.2",
    "1d6.1f 4d.m 27u.w gw0.w k2o.q q.q*2 q 1.2 2 2.2 2.4 1.8 q.q q.2 1.4 2.8 1.7 r.2 1.4 1.5 1",
    "3.7 r.q q.q*5 u.p x.p*4 x 3ed.y 1la.q 6.q*2"]),
  (["VS", "Variation_Selector"], ["4qz.3 1 19f4.g i9yo.6o"]),
  (["WSpace", "White_Space", "Space"], ["9.5 i 2s q 4bj 1vj.b t.2 5 1b 334"]),
  (["XIDC", "XID_Continue"], [
    "1c.a 7.q 4 1.q 1b a 1 2 5.n 1.v 1.cq 4.c e.5 7 1 h.39 1.2 3.3 1 6.5 1 1.k 1.2b 1.3v 1.5",
    "2.4m 1.12 2 6.15 8.19 1 1.2*2 1 8.r 4.4 t.b 5.22 4.2u 1.8 2.a 1.j 2 g.1n 2.2t e.1i 4 2",
    "2.1a i.s 4.b 5.o 1.6 8.23 1.3l 2.a 1.j 1.8 2.2 2.m 1.7 1 3.4 2.9 2.2 2.4 8 4.2 1.5 2.c a 1",
    "2.3 1.6 4.2 2.m 1.7 1.2*3 2 1.5 4.2 2.3 3 7.4 1 7.g b.3 1.9 1.3 1.m 1.7 1.2 1.5 2.a 1.3*2",
    "2 f.4 2.a 9.7 1.3 1.8 2.2 2.m 1.7 1.2 1.5 2.9 2.2 2.3 7.3 4.2 1.5 2.a 1 g.2 1.6 3.3 1.4",
    "3.2 1 1.2 3.2 3.3 3.c 4.5 3.3 1.4 2 6 e.a g.d 1.3 1.n 1.g 2.9 1.3 1.4 7.2 1.3 2 2.4 2.a",
    "g.4 1.8 1.3 1.n 1.a 1.5 2.9 1.3 1.4 7.2 6.2 1.4 2.a 1.3 c.d 1.3 1.1f 1.3 1.5 5.4 7.5 2.a",
    "a.6 1.3 1.i 3.o 1.9 1 2.7 3 4.6 1 1.8 6.a 2.2 d.1m 5.f 1.a 13.2 1 1.5 1.o 1 1.n 2.5 1 1.7",
    "1.a 2.4 w n.2 6.a b 1*2 4.a 1.10 4.k 1.i 1.10 9 1l.22 6.26 2.12 1 5 2.17 1.99 1.4 2.7 1",
    "1.4 2.15 1.4 2.x 1.4 2.7 1 1.4 2.f 1.1l 1.4 2.1v 2.3 9.9 e.g g.2e 2.6 3.h8 2.h 1.q 5.23",
    "3.b 7.m 9.m b.k c.d 1.3 1.2 c.2c 3 4.2 2.a x.3 1.b 6.2h 7.17 5.1y a.v 1.c 4.c a.14 2.5",
    "b.18 4.q 6.b 11.s 4.1r 1.t 2.b 6.a d 8.e 1.g 1d.25 3.a h.9 c.38 c.1k 8.a 3.1d 2.b 5.17 2.3",
    "g.3 1.13 5.eu 2.6 2.12 2.6 2.8 1*3 1.v 2.1h 1.7 1 3.3 1.7 3.4 2.6 4.d 5.3 1.7 f.2 1d.2 j s",
    "d g.d 1f.d 4 3.c h 4 2.a 1 2.6 6 1*2 1.g 2.4 5.5 4 h.15 22f.6d 6.9 c.12 1 5 2.1k 7 f.o 9.7",
    "1.7*7 1.w ed.3 p.f 1.5 2.5 4.2e 2.2 2.3 1.2n 5.17 1.2m h.w 1c.g e8.534 1s.h3h 1v.1a 2.7h",
    "3.s k.1c 4.a 1.37 11.9 2.2v 2.1v 2.2 1 1.8 l.1i 4 j.1g c.1y a.a 6.o 3 1.1d 2.10 c.t 3.1t",
    "e.b 6.v 1.1j 9.e 2.a 6.n 3.21 o.3 2.g 2.5 a.6 2.6*2 9.7 1.7 1.17 1.e 6.3f 1.2 2.a 6.8mc",
    "c.n 4.1d 6is.a6 2.2y 12.7 c.5 5.c 1.d 1.5 1 1.2*2 1.30 x.3v 6.62 i.1s 2.1i 14.a 6.g g.g",
    "3.2 o.3 x 1 3 1*3 1.3i j.a 7.q 4 1.q a.2i 3.6 2.6*2 2.3 z.c 1.q 1.j 1.2 1.f 2.e y.3f 1x.1h",
    "3s 3m.t 3.1d f v.w d.u 5.17 5.u 2.10 4.8 1.5 16.4e 2.a 6.10 4.10 4.14 8.1g c.b 1.f 1.7 1.2",
    "1.b 1.f 1.7 1.2 3.1g c.8n 9.m a.8 o.6 1.16 1.9 1x.6 2 1.18 1.2 3 2.n a.n 9.v 1t.j 1.2 a.m",
    "a.q 1y.1k 6.2 1s.4 1.2 5.8 1.3 1.t 2.3 4 w.t 3.t z.8 1.u p.1i a.m a.j d.i 32.21 1j.1f d.1f",
    "d.14 8.a 6.12 3.5 1.n 6y.16 1.2 3.2 g.3 1j.x a 8.x v.m 16.l r.n 9.1z v.g 9.1o 7 d.p 7.a",
    "6.1h 1.a 4.4 8.10 2 9.1x 4.4 1.d 1 z.i 1.11 6.4 1q.7 1 1.4 1.f 1.a 7.1n 5.a 6.4 1.8 2.2",
    "2.m 1.7 1.2 1.5 1.a 2.2 2.3 2 6 5.7 2.7 3.5 b.a 1 2 1.12 1.a 1 2 1.4 1.8 d.2 t.23 5.a 4.4",
    "u.1y 1 8.a 4m.1i 2.9 n.6 y.1t 3 b.a 12.1l 7.a 6.k s.r 2.f 4.a 6.7 55.1n 2t.22 l.8 2 2.8",
    "1.2 1.u 1.2 2.9 c.a 1y.8 2.1a 2.8 1.2 r.1r 8 8.22 3 i.21 5j.x f.a 6.9 1.19 1.9 f.a o.u 2.m",
    "1.e 21.7 1.2 1.18 3 1.2 1.9 8.a 6.6 1.2 1.11 1.2 1.6 7.a 8m.n 9.h 1.15 3.5 d.b 2d 27.pm",
    "2u.33 h.5g 218.2p f.ts g.m a.32z 5.g7 5a1.1m 1c6.ft 7.v 1.a 6.27 1.a 6.u 2.5 b.1j 9.4 c.a",
    "9.l 5.j c0.19 3.a 5i.1s 3k.23 4.1l 7.h 1s.2 1.2 b.2 e.4qg 8.ye 15.a 6w7.4 1.7 1.2 1.83 f",
    "t.3 2 e.4 8.b0 1s4.2z 5.d 3.9 7.a 3.2 381.a ee.1a 2.n f2.5 3.6 8.8 2.7 u.4 44.3 cb.2d 1.1z",
    "1.2 2 2.2 2.4 1.c 1 1.7 1.1t 1.4 2.8 1.7 1.s 1.4 1.5 1 3.7 1.9g 2.p 1.p 1.v 1.p 1.v 1.p",
    "1.v 1.p 1.v 1.p 1.8 2.1e e8.1j 4.1e 8 e m.5 1.f uo.v 6.6 5x.7 1.h 2.7 1.2 1.5 5.1q x 34.19",
    "3.e 2.a 4 8x.v h.1m d2.16 5y.17 dh.7 1.4 1.2 1.f 1.5h b.7 15.24 4.a x2.4 1.r 1.2 1 2 1.a",
    "1.4 1*2 6 4 1*2 1.3 1.2 1 2 1*4 1.2 1 2.4 1.7 1.4*2 1 1.a 1.h 5.3 1.5 1.h 2lw.a sm.wyo",
    "w.37e 6.66 2.4g2 e.5rl f.ha 1wi.f2 15u.3t7 5.38g f9e8.6o"]),
  (["XIDS", "XID_Start"], [
    "1t.q 6.q 1b a 4 5.n 1.v 1.cq 4.c e.5 7 1 3l.5 1.2 3.3 1 6 1.3 1 1.k 1.2b 1.3v 8.4m 1.12 2",
    "6.15 1z.r 4.4 19.17 z.2 1.2r 1 f.2 7.2 a.3 2 g 1.u t.2h b o.x 9.2 4 5.m 4 9 3 n.p 7.b 5.o",
    "1.6 h.16 1m.1i 3 i 7.a f.g 4.8 2.2 2.m 1.7 1 3.4 3 g d.2 1.3 e.2 a 8.6 4.2 2.m 1.7 1.2*3",
    "v.4 1 j.3 g.9 1.3 1.m 1.7 1.2 1.5 3 i f.2 n b.8 2.2 2.m 1.7 1.2 1.5 3 u.2 1.3 f h 1.6 3.3",
    "1.4 3.2 1 1.2 3.2 3.3 3.c m 1g.8 1.3 1.n 1.g 3 q.3 2 2.2 u 4.8 1.3 1.n 1.a 1.5 3 v.2 1.2",
    "f.2 h.9 1.3 1.15 2 g 5.3 8.3 o.6 5.i 3.o 1.9 1 2.7 1m.1c 1 d.7 1m.2 1 1.5 1.o 1 1.a 1 a",
    "2.5 1 l.4 w 1r.8 1.10 r.5 37.17 k g.6 4.4 3 3.2 7.3 4.d c h.12 1 5 2.17 1.99 1.4 2.7 1 1.4",
    "2.15 1.4 2.x 1.4 2.7 1 1.4 2.f 1.1l 1.4 2.1v 11.g g.2e 2.6 3.h8 2.h 1.q 5.23 3.b 7.i d.j",
    "e.i e.d 1.3 f.1g z 4 1v.2h 7.15 1 5.1y a.v 1d.u 2.5 b.18 4.q 1i.n 9.1h 2a 2l.1b h.8 1i.u",
    "d.2 a.18 q.10 15.3 a.10 2.b 5.17 2.3 15.4 1.6 1.2 3 5.5c 1s.7q 2.6 2.12 2.6 2.8 1*3 1.v",
    "2.1h 1.7 1 3.3 1.7 3.4 2.6 4.d 5.3 1.7 38 d g.d 2t 4 2.a 1 2.6 6 1*2 1.g 2.4 5.5 4 h.15",
    "22f.6d 6.4 3.2 c.12 1 5 2.1k 7 g.n 9.7 1.7*7 fa.3 p.9 7.5 2.5 4.2e 6.3 1.2i 1.4 5.17 1.2m",
    "h.w 1c.g e8.534 1s.h3h 1v.1a 2.7h 3.g a.2 k.1b g.v 2.28 13.9 2.2v 2.1v 2.2 1 1.8 l.g 1.3",
    "1.4 1.n t.1g e.1e 1q.6 3 1.2 b.s a.n p.t 7.1b s g.5 1.a a.5 1.15 n.3 1.8 k.n 3 3.1e 1 3.2",
    "2.5 2 1 o.3 2.b 7.3 c.6 2.6*2 9.7 1.7 1.17 1.e 6.37 t.8mc c.n 4.1d 6is.a6 2.2y 12.7 c.5 5",
    "1.a 1.d 1.5 1 1.2*2 1.30 x.3v 6.62 i.1s 2.1i 14.a 3b 1 3 1*3 1.3i 10.q 6.q b.1k 2.v 3.6",
    "2.6*2 2.3 z.c 1.q 1.j 1.2 1.f 2.e y.3f 1x.1h 7f.t 3.1d 1b.w d.u 5.12 a.u 2.10 4.8 1.5",
    "16.4e i.10 4.10 4.14 8.1g c.b 1.f 1.7 1.2 1.b 1.f 1.7 1.2 3.1g c.8n 9.m a.8 o.6 1.16 1.9",
    "1x.6 2 1.18 1.2 3 2.n a.n 9.v 1t.j 1.2 a.m a.q 1y.1k 6.2 1s f.4 1.3 1.t 16.t 3.t z.8 1.s",
    "r.1i a.m a.j d.i 32.21 1j.1f d.1f d.10 12.s 9.n 6y.16 6.2 g.3 1n.t a 8.m 16.i 1a.l r.n",
    "c.1h 1l.2 2 d.19 w.p q.10 t 2 8.z 3 c.1c e.4 l 1 z.i 1.p j.2 1r.7 1 1.4 1.f 1.a 7.1b 12.8",
    "2.2 2.m 1.7 1.2 1.5 3 i c.5 u.a 1 2 1.12 1 p 1 18.1h i.4 k.3 u.1c k.2 1 54.1b 15.4 10.1c k",
    "1n.17 d 1z.r 11.7 55.18 38.1s v.8 2 2.8 1.2 1.o f 1 2m.8 2.13 g 1 s a.14 7 l b.1a j i.21",
    "5j.x v.9 1.11 h 1d.u 34.7 1.2 1.12 l p.6 1.2 1.w e 93.j f 1.d 1.y 3g 27.pm 2u.33 h.5g",
    "218.2p f.ts h.6 p.32z 5.g7 5a1.u 1cy.ft 7.v h.27 h.u i.1c g.4 v.l 5.j c0.19 5v.1s 3k.23 5",
    "1u.d 1s.2 1 s.4qg 8.ye 15.a 6w7.4 1.7 1.2 1.83 f t.3 2 e.4 8.b0 1s4.2z 5.d 3.9 7.a 4me.2d",
    "1.1z 1.2 2 2.2 2.4 1.c 1 1.7 1.1t 1.4 2.8 1.7 1.s 1.4 1.5 1 3.7 1.9g 2.p 1.p 1.v 1.p 1.v",
    "1.p 1.v 1.p 1.v 1.p 1.8 1f8.v 6.6 79.1q 42.19 a.7 g 8x.u i.18 dg.s 6c.u 2 dr.7 1.4 1.2 1.f",
    "1.5h 1n.1w 7 xg.4 1.r 1.2 1 2 1.a 1.4 1*2 6 4 1*2 1.3 1.2 1 2 1*4 1.2 1 2.4 1.7 1.4*2 1",
    "1.a 1.h 5.3 1.5 1.h 3es.wyo w.37e 6.66 2.4g2 e.5rl f.ha 1wi.f2 15u.3t7 5.38g"])]

end StyleGuide.CharSet
