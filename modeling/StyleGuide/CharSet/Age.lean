/-!
The versions of the standard, each with the characters that were new in it.
-/

namespace StyleGuide.CharSet

/-- The versions in their order. -/
def ageTables : List (List String × List String) := [
  (["1.1", "V1_1"], [
    "0.dy 4.u 1k.2h 7.1b 1.a m.1y q.2 i.2 4 3 5.7 1 1.k 1.18 1.7 3 1*3 1.i d.c 1.1u 1.c 1.15",
    "9.1h 2.2*2 3.s 2.8 2.2 1j.12 2.7 1.13 1 12.a 1.9 c.r 5.5 n e 3 1.q 5.j d.e 2.20 2.5 1.f",
    "1.u 2.a ef.3 1.1h 2.i 2.5 3.p g.3 1.8 2.2 2.m 1.7 1 3.4 2 1.7 2.2 2.3 9 4.2 1.5 2.l 7 2.6",
    "4.2 2.m 1.7 1.2*3 2 1.5 4.2 2.3 b.4 1 7.f c.3 1.7 1 1.3 1.m 1.7 1.2 1.5 2.a 1.3*2 2 f 5.a",
    "h.3 1.8 2.2 2.m 1.7 1.2 2.4 2.8 3.2 2.3 8.2 4.2 1.3 4.b h.2 1.6 3.3 1.4 3.2 1 1.2 3.2 3.3",
    "3.8 1.3 4.5 3.3 1.4 9 f.c e.3 1.8 1.3 1.n 1.a 1.5 4.7 1.3 1.4 7.2 9.2 4.a i.2 1.8 1.3 1.n",
    "1.a 1.5 4.7 1.3 1.4 7.2 7 1.2 4.a i.2 1.8 1.3 1.n 1.g 4.6 2.3 1.4 9 8.2 4.a 41.1m 4.t 11.2",
    "1 2.2 1 2 6.4 1.7 1.3 1*2 2.2 1.d 1.3 2.5 1 1.6 2.a 2.2 ci.12 a.13 4 4.2i 5.1w 5.2a 2di.4b",
    "5.2i 6.m 2.6 2.12 2.6 2.8 1*3 1.v 2.1h 1.f 1.e 2.6 1.j 2.3 1.9 1.1b 1.n z.7 3.r h.b 11.i",
    "u.1l q.1c d.2j l.6q e 1.3d 3p.11 r.b l.3v l.46 a.28 g.k 6.2e 41.4 1.4 2.s 1.z 1 1.4 3 1.7",
    "2.7 e.v 3.o 1.e 1mp.1k 7 1.2c 4.6 2.2m 6.14 4.2m 1.g 2o.t 3.10 s.s 3.1e f.c 4.1b 1.3b 4.2r",
    "2.v 54x.g4m cpm.566 5u.7 c.5 6.p 1.5 1 1.2*2 1.30 x.a5 g.1s 2.1i 14.c 10.4 c.l 4.a 1.j 1.4",
    "4.3 1 1.3r 2 1.2m 2.2m 3.6 2.6*2 2.3 3.7 1.7 e.3"]),
  (["2.0", "V2_0"], [
    "13l.h 1.d k 1tn.20 1.x 7.r 4.6 1 1.l 3.7 1 2xt en ris.8mc 1mje.2 1eke.2*c 1eke.2t4y"]),
  (["2.1", "V2_1"], ["6gc 183z"]),
  (["3.0", "V3_0"], [
    "dy.4 u.8 2.i 39.5 1d a.5 2f.9 j 38 3 1*3 u c 1u c 16.2 2.4 2k.2 4c 5k.3 2q.2 5 f 16.5 1.e",
    "1.u 3.r 1h.1d 15d.2 1.i 3.o 1.9 1 2.7 3 4.6 1 1.8 i.3 ad 17 n.3 7 1.3 1.f 2 1c.y 1.5 1.2",
    "1.7 3.4 6.q bq.7 1.1r 1 1.4 2.7 1 1.4 2.13 1 1.4 2.v 1 1.4 2.7 1 1.4 2.7 1.7 1.n 1.v 1 1.4",
    "2.7 1.13 1.j 6.s z.2d c.hi 9.t 3.29 3z.2l 3.a m.f 1.a 6.2g 8.16 1hh o.6 2n.3 1e.2 2d.2 20",
    "2v.9 7h 3d 1.u 3u.2 cp.8 x 2e.2 b2.74 134.q 1.2h c.5y q.c 1o.3 3 9t.o g8.52u g96.wd 3.i",
    "2.g 1.c 1.3 1 h1y yj.3"]),
  (["3.1", "V3_1"], [
    "s4.2 1dcq.w 100.v 1.4 c.r 51.12 2.12 148i.6u a.13 3.50 f6.2d 1.1z 1.2 2 2.2 2.4 1.c 1 1.4",
    "1.2 1.1t 1.4 2.8 1.7 1.s 1.4 1.5 1 3.7 1.9e 4.82 4.1e 7wg.wyf g15.f2 fher u.2o"]),
  (["3.2", "V3_2"], [
    "f4 8e j.d 2w.2 s 43.2 1l.2 2.2*2 1d.g 9q.2 8x 1tx.2 16v.d 1.7 b.n 9.k c.d 1.3 1.2 1qr 6.5",
    "4 7.5 d 1q.2 1e.7 2a.f 4o.c 6q.e 3g u.1g 7w.k 47.a 2g.8 m.2 2i.c 2.a 66.e 2i.s 4.g 74.e8",
    "117.3 2f.2 8.2 2m 6o.g 29.f*2 mhu.2 g c 3 gve.1n pd 3.g 1h.2 18 6j.2"]),
  (["4.0", "V4_0"], [
    "f5 i.3 3b.2 1r.h 28.8 5.3 47.5 ec.4 9.9 1s.3 45.2 f 19.3 t.3 c4 54 1v 1 3s 2c.3 d 1v 1n",
    "3l.8 5d.2 273 i.a 7a.t 3.c 4.c 4 3.16 2.5 2z.w lc.30 kn.2 6e ib.2 8e 7o.2 38.8 e.2 v2.e",
    "1e7.2 1d 17.2 26.4 4n.4 2r.2 v 534.1s yrh 21.2 c7.c 1.q 1.j 1.2 1.f 2.e y.3f 5.3 4.19 3.9",
    "g0.u 1 3q.2 12.28 2.a nq.6 2 1.18 1.2 3 2 141s.2f a2 h3jy.6o"]),
  (["4.1", "V4_1"], [
    "fr.b 7q.5 4f.4 6u.2 4q y.3 1v i 1m.6 6p.u en 28 dj 1b rt.2 87.2 1 7e 1r*2 13 v*3 f 13 n.2",
    "v.q 15y.16 6.q 6.a 4.2 w.s 2.2 ng.2g i9.2 1.7 1d.5 t.4 1h 28 f hw.b fw 2t.2 i.b 5.g 7i.7",
    "nb.6 6k.1b 1.1b x.2z e.19 a.1i 9 g.n 9.7 1.7*7 x.o 4.2 pu.g 4u lk7.m 1fo.n 6h.18 g90.2y",
    "mu.a me.23 et.10 4.e 17u.4 1.2 5.8 1.3 1.r 4.3 4.9 8.9 13fr.1y v2.2"]),
  (["5.0", "V5_0"], [
    "g2.e 8b.3 9d 16.6 g.4 4m ed.1n ao.2 1.2 o2.2 d.2 2rx.24 4.19 g7.7 1f.2 ks.4 2l.2 1h gn.c",
    "ju 7o.4 nd.7 5.4 8s.d 7.4 o7z.4 5.2 7y.1k j2g.q 5 4io.of 41.2r d.4 yjw.i uw.2"]),
  (["5.1", "V5_1"], [
    "og.4 2.2 2f 53 3w.g 6a.5 b.5 w.5 8e.i dt.2 66 z 5q t.2 30*2 q.2 8.2 k.8 59 6 t.2 c.6 3.7",
    "dn.2 2p 3.3 25 5 2 7.3 4.6 q.1s 4.2 1l6 k5.17 3.c 1y.1k 3.f 3.1f 97.s 51.4 2i.6 9w 3v 2m",
    "1h.4 104 l.a 3.4 7c v.4 mj.5 4.15 3.5 7s.3 1.3 4.6 9u.w o.4 2.j l8 4i.k lp4.8 118.8c k.w",
    "2.i 8.s 3n.5 2.2z 32.5 3k.1x 9.c 12.2c b 4g.1j 9.e 2.a 2.4 gjo.3 o9.c 1g.1a 3m.t 3.1d",
    "18v.q 5 13hl 63a.18 4.2s"]),
  (["5.2", "V5_2"], [
    "10k.2 ka.1a 2.f 5d 25 6 z.2 3k 15l.4 5d.4 58.5 1w.5 2a.6 e8 hi.9 fk.1y 50.2 1a 1x.1r 1.t",
    "2.b 6.a 6.e f6.z 7e jc.3 47.3 1i gu j9.2 t.3 4.a 1.j 1 4.o 2f sd.5 7q d.2 2z.7 8v sy.c",
    "lmc.8 zo.1c bk.2g 8o.a 4m.s 2s.t 3.26 1.b 4.2 3k.s 4.1v o.5 68.1a 2.a 8mu.n 4.1d 6sv.3",
    "2qa.m 1.9 56.2 90.w 3k.1i 3.t 2.r 5.8 3k.21 ev.v e9.1u 666.tr 11ap.b 5.v 2 b 1 2 3 3.5 8 7",
    "p 1.2 2 a.4 2 33 f.y e.9 zp3.379"]),
  (["6.0", "V6_0"], [
    "10m.2 6w 1q dc.s 2 63.2 j 6.2 r.5 e2.6 c1 g j fx.4 21.2 oy.2 1nl.1g 8.4 e4 ig.8 s mn.b ka",
    "j 1.4 t 4.2 s z 1 4.3 9.2 1g.3 o e e.2 140 e u0.3 n1h.2 8b.2 1.2 e.a 28 li.6 2.6*2 9.7 1.7",
    "fwj.g 3zy.26 4.u hao.ft ds7.2 cri.f 2.e 2.f 1.f 28 1.b 1 1.2 1.3*2 5.8 1.7 1.a 6.9 1 2.2",
    "1.a 4.2 1.a 23.q 1.2 1b.9 l.2 4u.x f.6 1.1y 3.k c.11 1.5 l.h f.1r 1 1.52 1.4 3.1q i.o 43.5",
    "1.g 1.3 1*3 1.3 1.6 2.4 1 2.4 1.c 4.b 1c.1y 1m.38 11vw.66"]),
  (["6.1", "V6_1"], [
    "13j 38 ij 1.b 1j.r dt rx.2 dj 5 1b.3 23v.3 c.6 74.8 17.4 250 1 10k.2 1f 5 1k.2 5m.a mfk",
    "1bb.8 z 6q.2 m 25.2 km.n fnb.2 30w.1k 6.2 1e8.p 7.a 6.1h 1.e 1o.21 7.a x2.1k 8.a hfa.1x",
    "b.1b g.h oyo.4 1.r 1.2 1 2 1.a 1.4 1*2 6 4 1*2 1.3 1.2 1 2 1*4 1.2 1 2.4 1.7 1.4*2 1 1.a",
    "1.h 5.3 1.5 1.h 1g.2 hk.2 r8.4 58 g 3 1*3 3 6.2 4 1.2 4"]),
  (["6.2", "V6_2"], ["6gq"]),
  (["6.3", "V6_3"], ["17g 56x.4"]),
  (["7.0", "V7_0"], [
    "ov bs.8 2l.2 3a ij b.6 24 3c 7 hr 1f 24 3j 6c.a 1s1.8 f8.2 b5.f ft.2 6l.f jp.3 mu.7 lh",
    "uk.3 a.q 2.w 2.y 3.c 1.8 h6.7 nrp.6 6u.c b.3 2.2 1x dk.v 3h.4 4w.1c 4.2 gch.7 nx.2 j 8v.s",
    "z 1c.17 at.14 8.1g b 40.8n 9.m a.8 6w.1r 8.9 cw.w w.13 4.c 3t.i 7.4 c.7 y7 5s.13 2e c 6.k",
    "b.i 1.17 36.1n 5.a 7.3 1.8 2.2 2.m 1.7 1.2 1.5 2.9 2.2 2.3 9 5.7 2.7 3.5 7f.20 8.a 4m.1i",
    "2.i 1i.1x b.a g6.2b c cg.1l 1o6.16 5m.c 5 dsb.v 1.a 4.2 2o.u 2.6 a.1y a.a 1.7 1.l 5.j",
    "fw0.2z 5.d 3.9 7.a 2.8 8kc.5h 2.g 1k8 w.m l.2 es.c 9 1y m.c 11 5.4 5.c h.7 1z 1 52 4.2",
    "1r.2 4.7 t.i 1.15 1.2e 1y.2 d.1c 1y.a g.d 3.4 3w.2d 17.c 4.1k 8.a 6.14 8.u"]),
  (["8.0", "V8_0"], [
    "1pv.2 1a et 9s 78 1at 2.6 2io 5n.2 21s.4 mvx.9 1c8 6o y.6 90.2 gy.4 c.28 ga6.2 240.j 1.2",
    "5.5 58.2 2.g 2.1a hs.1f d.1f 7.6 y1.4 e.5 4g.7 1 1.4 1.f 1.b 2e 27 hl.k 82.q 3.f 4.g 2ft",
    "6e.5g 62k.g7 rkn.b 17b.i4 f.5 1.f 4u5.3 26.2 27.5 10.8 73 23.5 6r.2 3v fz.9 2v.5 1n",
    "11lr.4g2"]),
  (["9.0", "V9_0"], [
    "1py.8 m.f pp 5q 4.3 1.7 n.3 2yv.9 aa 16n.4 210.2 nzd 7q hjb.2 m9.10 4.10 2ma ch.2i 1*2",
    "ea.d 13n.9 1.19 1.e a.t 3.w 2.m 1.e gfd v.4q5 j.kz gst.7 1.h 2.7 1.2 1.5 1qt.23 5.a 4.2",
    "1mj.i 3y n2 15 8c.2 x.3 f6.6 1.8 8 2.c 1.c 4.f 12.d"]),
  (["10.0", "V10_0"], [
    "1nk.b b5.2 70.6 e8 1m.2 33u 72.4 jp n3 1jm he.5 kk luv.l jlu.3 4i8.20 8.1g 2.n 1.5 gt.7",
    "1.2 1.18 3 1.2 1.9 8.a gav co0.7x 29.b0 cis.6 vh.2 y.2 ef.c j 8.8 1.2 p i.d 12.6 1k.n",
    "1615.5rl"]),
  (["11.0", "V11_0"], [
    "128 13 2u el.3 5v 8a 3b b1 3j 2cz t3.17 2.3 2yi.3 m.p 4.f gb.5 kg lvf.5 1j3 8.2 90.2 j78.2",
    "i jb.14 8.a cm.14 8.16 ab 3a.3 dw 82 jf 6d.1o gx jm.6 1.2 1.11 1.2 1.6 7.a 8m.p fnr.2j",
    "502.5 esu.k 3i.7 4xk.1w vu 155 63.4 ac.3 s.5 2.4 3 1.4 o.b d.a 7.2 10.p 2o.e"]),
  (["12.0", "V12_0"], [
    "2gn em 2*2 1.6 4 7 7.2 2 d 2tb 2xa 1h gf nze.6 2.5 pr.2 jug.n vc go kn.8 2.1a 2.b 4f.2",
    "116.1e d 3zk.9 bnw.6 4 1b.9 2i.2 4r2.6 860.3 h.4 9eg.19 3.e 2.a 4.2 a8.1m 5 18r qd.1p tq",
    "12g 10 6d.c 81.3 1b 1d 9 15.6 3.2 a.6 3.8 2.3 1c.2c s.4 4.3 5.3 d.6"]),
  (["12.1", "V12_1"], ["a2n"]),
  (["13.0", "V13_0"], [
    "1q6.a i5 by 3g 2m5.2 3bq jc.3 o8.5 5iu.a g8g.d 1je.4 16.2 1h mz.4 h0w 2jn.16 1.3 2.2 72.s",
    "aj 3q.2 i2 5.2 wu.7 2 2.8 1.2 1.u 1.2 2.c 9.a 192 fub b.2 5c1.df 16.9 jr8.3 2l.3 1p 10o.2",
    "z.2 c3.2 2i 2t 4.2 16.2 6.3 t 4o e.4 f.j 7.7 9.3 d.7 15.43 1.1j 11.a xr1.7 hlu.3t7"]),
  (["14.0", "V14_0"], [
    "17h gi.v 1.2 6.8 l i.b o9 w 3j 20f 7 9 6n j5.e 3h 1c.2 hn jp 29a 1b dv.b mfz.3 1j4.2 e.2 1",
    "1.5 o.3 gjx al.g 3j 1a.2 1gw.b 1.f 1.7 1.2 1.b 1.f 1.7 1.2 cj.6 1.16 1.9 1it.q 6e.6 24 16e",
    "3q.7 o9.g 440.2r bjx.27 1.a dnq.4 1.7 1.2 80.4 5wd.1a 2.n 9.38 f9.2 2l1.v oh.v 10x.7 1.4",
    "1.2 1.f 2xq.3 7k aw 2a 4u.2 18.4 a.4 8.3 h.3 6.8 8.7 xyf.2 385.4"]),
  (["15.0", "V15_0"], [
    "2k3 d6 1elq.3 n3.3 1q6.a s6.h 1.15 3.s 445 9.t onw y 6lm.k 2fl.6 79.1q x u8.16 3j6 47.3",
    "4.5 2h ij.3 f.2 10.3 b.3 1 e.2 a.2 c e.2 116o i6u.38g"]),
  (["15.1", "V15_1"], ["9h8.4 dr 3tvk.ha"]),
  (["16.0", "V16_0"], [
    "1p3 3p2.2 1b 7d.2 1i4.3 2pm.2 nad.3 c.3 ijn.1g 1fw.12 3.t 8.2 8i.3 1j w3.a 1 2 1.12 1.a 1",
    "2 1.4 1.a 1.2 8.2 kt.k yk.y e.a o0 45h.32z 5qd.1m 2di.1m 685 cg0.6y 6.c4 4kc.17 4 3oy.a",
    "4.2 cn 5 1a 7 l 2 9 69.11"])]

end StyleGuide.CharSet
